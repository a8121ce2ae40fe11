import FirmwareVars.Guid
import FirmwareVars.NamingError
/-!
# Entry names

A variable is one file, named by the variable's name, a hyphen and the GUID.  Names may have hyphens of their own, so
the GUID is found from the end: it is the last five hyphen-separated segments.  `encode` writes the GUID in lower case;
`decode` takes its digits in either case, and nothing but the bare hyphenated form.
-/
namespace FirmwareVars
namespace EntryName

/-- Would reach outside the directory, or end a path early. -/
def isUnsafe (c : Char) : Bool := c == '/' || c == '\x00'

/-- The entry name of an identity: the name must not be empty, and must be free of path separators and NULs. -/
def encode (i : Identity) : Except NamingError Text :=
  if i.name = [] then .error (.identity .emptyName)
  else if i.name.any isUnsafe then .error (.identity (.unsafeName i.name))
  else .ok i.spell

/-- The first group that is not the right number of bytes of hexadecimal digits, with that number. -/
def badGroup? : List Text → List Nat → Option (Text × Nat)
  | group :: groups, width :: widths =>
    if (Utf8.encode group).length ≠ width ∨ !group.all Numeral.isHexDigit then some (group, width)
    else badGroup? groups widths
  | _, _ => none

/-- The identity that an entry name spells. -/
def decode (entry : Text) : Except NamingError Identity :=
  let segments := Text.splitOn '-' entry
  if segments.length < guidSegments then .error (.entry entry (.fewSegments segments.length))
  else
    let name := segments.take (segments.length - guidSegments)
    let groups := segments.drop (segments.length - guidSegments)
    match badGroup? groups Guid.groupWidths with
    | some (group, width) => .error (.entry entry (.badGroup group width))
    | none =>
      match Guid.parse? (Text.joinWith ['-'] groups) with
      | none => .error (.entry entry .unreadableGuid)
      | some guid =>
        let name := Text.joinWith ['-'] name
        if name = [] then .error (.entry entry .emptyName) else .ok ⟨name, guid⟩

/-! ## The written form -/

/-- Hyphens of the name stay with the name. -/
example : (decode "a-b-8BE4DF61-93ca-11d2-aa0d-00e098032b8c".toList).toOption =
    some ⟨"a-b".toList, ⟨0x8be4df61, 0x93ca, 0x11d2, 0xaa0d00e098032b8c⟩⟩ := by
  decide +kernel

example : (encode ⟨"a-b".toList, ⟨0x8be4df61, 0x93ca, 0x11d2, 0xaa0d00e098032b8c⟩⟩).toOption =
    some "a-b-8be4df61-93ca-11d2-aa0d-00e098032b8c".toList := by
  decide +kernel

end EntryName
end FirmwareVars
