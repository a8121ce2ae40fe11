import FirmwareVars.Json.Double
import FirmwareVars.Text.Utf8
/-!
# JSON, read

Readers over the characters of a document.  A reader takes what stands at the front and returns it with the rest, or
says what is wrong: the text ended too early, it is not JSON, or it is JSON of the wrong kind.  The fault met first is
the one reported, so a document is never read further than its first fault.

`readString` reads a string for its text, where surrogate escapes must come in pairs; `skipValue` passes over a value
that nobody wants, where they need not.
-/
namespace FirmwareVars
namespace Json

/-- What is wrong with a document. -/
inductive Fault
  | malformed
  /-- It is not of the wanted kind. -/
  | mismatch
  | ended
  deriving DecidableEq, Repr

/-- Takes something from the front of a text. -/
abbrev Reader (α : Type) := Text → Except Fault (α × Text)

def isBlank (c : Char) : Bool := c == ' ' || c == '\n' || c == '\t' || c == '\r'

def skipBlank (t : Text) : Text := t.dropWhile isBlank

/-! ## Strings -/

/-- The value of four hexadecimal digits.  With fewer than four bytes left the text has ended, whatever they are. -/
def readUnit : Reader Nat
  | a :: b :: c :: d :: rest =>
    match Numeral.read? 16 [a, b, c, d] with
    | some n => .ok (n, rest)
    | none => .error .malformed
  | short => .error (if (Utf8.encode short).length < 4 then .ended else .malformed)

theorem length_of_readUnit {t rest : Text} {n : Nat} (h : readUnit t = .ok (n, rest)) : rest.length < t.length := by
  unfold readUnit at h
  split at h
  · split at h
    · cases h
      simp only [List.length_cons]
      omega
    · cases h
  · cases h

def pair (high low : Nat) : Char := Char.ofNat (0x10000 + (high - 0xD800) * 0x400 + (low - 0xDC00))

/-- The second half of a surrogate pair, after the first. -/
def readLow (high : Nat) : Reader Char
  | [] => .error .ended
  | [c] => .error (if c = '\\' then .ended else .malformed)
  | c :: d :: rest =>
    if c = '\\' ∧ d = 'u' then
      match readUnit rest with
      | .ok (low, after) =>
        if 0xDC00 ≤ low ∧ low < 0xE000 then
          .ok (pair high low, after)
        else .error .malformed
      | .error fault => .error fault
    else .error .malformed

theorem length_of_readLow {high : Nat} {t rest : Text} {c : Char} (h : readLow high t = .ok (c, rest)) :
    rest.length < t.length := by
  unfold readLow at h
  split at h
  · cases h
  · cases h
  · split at h
    · split at h
      · rename_i hu
        split at h
        · simp only [Except.ok.injEq, Prod.mk.injEq] at h
          obtain ⟨_, rfl⟩ := h
          have := length_of_readUnit hu
          simp only [List.length_cons]
          omega
        · cases h
      · cases h
    · cases h

/-- The character that a backslash and one more character stand for. -/
def shortEscape? (c : Char) : Option Char :=
  if c = '\x22' ∨ c = '\\' ∨ c = '/' then some c
  else if c = 'b' then some '\x08'
  else if c = 'f' then some '\x0c'
  else if c = 'n' then some '\n'
  else if c = 'r' then some '\r'
  else if c = 't' then some '\t'
  else none

/-- The character of a numbered escape, after its first two characters. -/
def readNumbered : Reader Char := fun t =>
  match readUnit t with
  | .ok (n, rest) =>
    if 0xDC00 ≤ n ∧ n < 0xE000 then .error .malformed
    else if 0xD800 ≤ n ∧ n < 0xDC00 then readLow n rest
    else .ok (Char.ofNat n, rest)
  | .error fault => .error fault

theorem length_of_readNumbered {t rest : Text} {c : Char} (h : readNumbered t = .ok (c, rest)) :
    rest.length < t.length := by
  unfold readNumbered at h
  split at h
  · rename_i hu
    have hl := length_of_readUnit hu
    split at h
    · cases h
    · split at h
      · have := length_of_readLow h
        omega
      · simp only [Except.ok.injEq, Prod.mk.injEq] at h
        obtain ⟨_, rfl⟩ := h
        exact hl
  · cases h

/-- The character of an escape, after its backslash. -/
def readEscape : Reader Char
  | [] => .error .ended
  | c :: rest =>
    match shortEscape? c with
    | some d => .ok (d, rest)
    | none => if c = 'u' then readNumbered rest else .error .malformed

theorem length_of_readEscape {t rest : Text} {c : Char} (h : readEscape t = .ok (c, rest)) :
    rest.length < t.length := by
  unfold readEscape at h
  split at h
  · cases h
  · split at h
    · cases h
      simp
    · split at h
      · have := length_of_readNumbered h
        simp only [List.length_cons]
        omega
      · cases h

/-- The text of a string, after its opening quote; the closing one is taken too. -/
def readString : Reader Text
  | [] => .error .ended
  | c :: rest =>
    if c = '\x22' then .ok ([], rest)
    else if c = '\\' then
      match _h : readEscape rest with
      | .ok (d, after) =>
        match readString after with
        | .ok (ds, after) => .ok (d :: ds, after)
        | .error fault => .error fault
      | .error fault => .error fault
    else if c.toNat < 0x20 then .error .malformed
    else
      match readString rest with
      | .ok (ds, after) => .ok (c :: ds, after)
      | .error fault => .error fault
termination_by t => t.length
decreasing_by
  · have := length_of_readEscape ‹_›
    simp only [List.length_cons]
    omega
  · simp

/-! ## Numbers -/

/-- A number by its digits before and after the point, and its exponent. -/
structure Number where
  whole : Text
  fraction : Text
  exponent : Int

def takeDigits (t : Text) : Text × Text := (t.takeWhile Numeral.isDigit, t.dropWhile Numeral.isDigit)

/-- One digit or more; `atEnd` is the fault of a text that stops before the first one. -/
def readDigits (atEnd : Fault) : Reader Text
  | [] => .error atEnd
  | t =>
    match takeDigits t with
    | ([], _) => .error .malformed
    | (digits, rest) => .ok (digits, rest)

/-- The part after the point, when there is one. -/
def readFraction (atEnd : Fault) : Reader Text
  | '.' :: rest => readDigits atEnd rest
  | t => .ok ([], t)

def readExponent (atEnd : Fault) : Reader Int
  | c :: rest =>
    if c = 'e' ∨ c = 'E' then
      let (sign, digits) : Int × Text := match rest with
        | '+' :: digits => (1, digits)
        | '-' :: digits => (-1, digits)
        | digits => (1, digits)
      match readDigits atEnd digits with
      | .ok (digits, rest) => .ok (sign * ((Numeral.read? 10 digits).getD 0 : Nat), rest)
      | .error fault => .error fault
    else .ok (0, c :: rest)
  | [] => .ok (0, [])

/-- A number without its sign.  A zero is not followed by another digit. -/
def readNumber (atEnd : Fault) (t : Text) : Except Fault (Number × Text) := do
  let (whole, rest) ← readDigits atEnd t
  if whole.length > 1 ∧ whole.head? = some '0' then .error .malformed
  else
    let (fraction, rest) ← readFraction atEnd rest
    let (exponent, rest) ← readExponent atEnd rest
    .ok (⟨whole, fraction, exponent⟩, rest)

/-- Has a magnitude of double precision. -/
def Number.isFinite (n : Number) : Bool := Double.isFinite n.whole n.fraction n.exponent

/-! ## Values that nobody wants -/

/-- Passes over a string, after its opening quote. -/
def skipString : Text → Except Fault Text
  | [] => .error .ended
  | c :: rest =>
    if c = '\x22' then .ok rest
    else if c = '\\' then
      match rest with
      | [] => .error .ended
      | d :: after =>
        if d = 'u' then
          match _h : readUnit after with
          | .ok (_, after) => skipString after
          | .error fault => .error fault
        else if (shortEscape? d).isSome then skipString after
        else .error .malformed
    else if c.toNat < 0x20 then .error .malformed
    else skipString rest
termination_by t => t.length
decreasing_by
  · have := length_of_readUnit ‹_›
    simp only [List.length_cons]
    omega
  · simp only [List.length_cons]
    omega
  · simp

/-- The rest of a word, of which the first letter has been seen. -/
def skipWord : Text → Text → Except Fault Text
  | [], t => .ok t
  | _ :: _, [] => .error .ended
  | w :: ws, c :: rest => if c = w then skipWord ws rest else .error .malformed

/-- The word that a first letter begins. -/
def wordAfter? (c : Char) : Option Text :=
  if c = 'n' then some "ull".toList
  else if c = 't' then some "rue".toList
  else if c = 'f' then some "alse".toList
  else none

mutual
/-- Passes over one value; `fuel` bounds the parts that it may have. -/
def skipValueWith : Nat → Text → Except Fault Text
  | 0, _ => .error .ended
  | fuel + 1, t =>
    match skipBlank t with
    | [] => .error .ended
    | c :: rest =>
      if c = '\x22' then skipString rest
      else if c = '[' then
        match skipBlank rest with
        | ']' :: after => .ok after
        | [] => .error .ended
        | items => skipItems fuel items
      else if c = '\x7b' then
        match skipBlank rest with
        | '\x7d' :: after => .ok after
        | [] => .error .ended
        | members => skipMembers fuel members
      else if c = '-' then
        match readNumber .malformed rest with
        | .ok (_, after) => .ok after
        | .error fault => .error fault
      else if Numeral.isDigit c then
        match readNumber .malformed (c :: rest) with
        | .ok (_, after) => .ok after
        | .error fault => .error fault
      else match wordAfter? c with
        | some word => skipWord word rest
        | none => .error .malformed

/-- The values of an array up to its closing bracket. -/
def skipItems : Nat → Text → Except Fault Text
  | 0, _ => .error .ended
  | fuel + 1, t =>
    match skipValueWith fuel t with
    | .error fault => .error fault
    | .ok rest =>
      match skipBlank rest with
      | ',' :: rest => skipItems fuel rest
      | ']' :: rest => .ok rest
      | [] => .error .ended
      | _ => .error .malformed

/-- The members of an object up to its closing brace. -/
def skipMembers : Nat → Text → Except Fault Text
  | 0, _ => .error .ended
  | fuel + 1, t =>
    match skipBlank t with
    | '\x22' :: rest =>
      match skipString rest with
      | .error fault => .error fault
      | .ok rest =>
        match skipBlank rest with
        | ':' :: rest =>
          match skipValueWith fuel rest with
          | .error fault => .error fault
          | .ok rest =>
            match skipBlank rest with
            | ',' :: rest => skipMembers fuel rest
            | '\x7d' :: rest => .ok rest
            | [] => .error .ended
            | _ => .error .malformed
        | [] => .error .ended
        | _ => .error .malformed
    | [] => .error .ended
    | _ => .error .malformed
end

/-- Passes over one value.  Every part has at least one character, so the length of the text bounds their number. -/
def skipValue (t : Text) : Except Fault Text := skipValueWith (2 * t.length + 2) t

/-! ## Wanted values -/

/-- The fault of a value that is not of the wanted kind: it is read as far as it takes to know its kind. -/
def mismatchAt (t : Text) : Fault :=
  match t with
  | [] => .ended
  | c :: rest =>
    if c = '\x22' then
      match readString rest with
      | .ok _ => .mismatch
      | .error fault => fault
    else if c = '[' ∨ c = '\x7b' then .mismatch
    else if c = '-' ∨ Numeral.isDigit c then
      match readNumber .ended (if c = '-' then rest else c :: rest) with
      | .ok (n, _) => if n.isFinite then .mismatch else .malformed
      | .error fault => fault
    else match wordAfter? c with
      | some word =>
        match skipWord word rest with
        | .ok _ => .mismatch
        | .error fault => fault
      | none => .malformed

def readText : Reader Text := fun t =>
  match skipBlank t with
  | '\x22' :: rest => readString rest
  | other => .error (mismatchAt other)

/-- The items of an array after its opening bracket, up to the closing one; `first` while there was none yet. -/
def readItems {α : Type} (item : Reader α) : Nat → Bool → Reader (List α)
  | 0, _, _ => .error .ended
  | fuel + 1, first, t => do
    let more (t : Text) : Except Fault (List α × Text) := do
      let (a, rest) ← item t
      let (as, rest) ← readItems item fuel false rest
      .ok (a :: as, rest)
    match skipBlank t with
    | [] => .error .ended
    | c :: rest =>
      if c = ']' then .ok ([], rest)
      else if first then more (c :: rest)
      else if c = ',' then
        match skipBlank rest with
        | [] => .error .ended
        | ']' :: _ => .error .malformed
        | next => more next
      else .error .malformed

/-- A whole document: a value and nothing after it but blanks. -/
def readDocument {α : Type} (value : Reader α) (t : Text) : Except Fault α :=
  match value t with
  | .error fault => .error fault
  | .ok (a, rest) => if skipBlank rest = [] then .ok a else .error .malformed

def readArray {α : Type} (item : Reader α) : Reader (List α) := fun t =>
  match skipBlank t with
  | '[' :: rest => readItems item (rest.length + 1) true rest
  | other => .error (mismatchAt other)

end Json
end FirmwareVars
