import FirmwareVars.Proofs.Attributes
import FirmwareVars.Proofs.EntryName.Codec
import FirmwareVars.Proofs.Host.Opening
import FirmwareVars.Proofs.Host.Run
import FirmwareVars.Store
/-!
# Single variables

What the operations on one variable give, and what they leave behind.  Reading gives what the host reads at the path of
the variable.  Otherwise it is in terms of the contents of its file: the root of the store leads to a directory, the
entry of the variable is free or a file, and its names are no longer than the host allows (`Fits`).  An identity without
an entry name is refused, whatever the host holds.
-/
namespace FirmwareVars

open FileSystem (LeadsTo IsEntry IsSingle nameLimit pathLimit)
open EntryName (Addressable)
open Machine (run_bind_of_ok run_bind_of_error)

/-! ## The entry of an identity -/

theorem EntryName.hyphen_mem_encode (i : Identity) : 0x2D ∈ Utf8.encode i.spell := by
  have hhyphen : Utf8.encode ['-'] = [0x2D] := rfl
  rw [Identity.spell, Utf8.encode_append, Utf8.encode_append, hhyphen, List.mem_append, List.mem_append]
  exact .inl (.inr List.mem_cons_self)

/-- **The entry name of an identity is a single component**, whatever the name is. -/
theorem EntryName.isSingle_encode {i : Identity} (h : Addressable i) : IsSingle (Utf8.encode i.spell) := by
  have hmem := hyphen_mem_encode i
  refine { ne_here := ?_, ne_up := ?_, ne_nil := ?_, separator_notMem := ?_, zero_notMem := ?_ }
  · intro heq
    rw [heq] at hmem
    revert hmem
    decide
  · intro heq
    rw [heq] at hmem
    revert hmem
    decide
  · intro heq
    rw [heq] at hmem
    exact List.not_mem_nil hmem
  · intro hslash
    exact notMem_spell h.2.1 (by decide) (by decide) (Utf8.mem_of_mem_encode (by decide) hslash)
  · intro hzero
    exact notMem_spell h.2.2 (by decide) (by decide) (Utf8.mem_of_mem_encode (by decide) hzero)

theorem EntryName.isEntry_encode {i : Identity} (h : Addressable i)
    (hlen : (Utf8.encode i.spell).length ≤ nameLimit) : IsEntry (Utf8.encode i.spell) := by
  have hs := isSingle_encode h
  exact ⟨⟨hs.ne_here, hs.ne_up, hlen⟩, hs.ne_nil, hs.separator_notMem, hs.zero_notMem⟩

namespace Store

/-- The path of the file of a variable whose identity has an entry name. -/
def variablePath (s : Store) (i : Identity) : Path := s.root.join (Path.ofText i.spell)

/-- The host takes the entry name of the identity, and the path to it. -/
structure Fits (s : Store) (i : Identity) : Prop where
  entry : (Utf8.encode i.spell).length ≤ nameLimit
  path : (s.variablePath i).bytes.length < pathLimit

/-- The refusal of an identity without an entry name. -/
def refused (i : Identity) : StoreError := .invalidIdentity (.identity (EntryName.refusal i))

variable {s : Store} {m : Machine} {i : Identity}

theorem entryPath_of_addressable (h : Addressable i) : s.entryPath i = .ok (s.variablePath i) := by
  rw [entryPath, EntryName.encode_of_addressable h]
  rfl

theorem entryPath_of_not_addressable (h : ¬ Addressable i) : s.entryPath i = .error (refused i) := by
  rw [entryPath, EntryName.encode_of_not_addressable h]
  rfl

section EntryPath

variable {Handle α : Type} (s) (f : Path → Work Handle α)

theorem bind_entryPath (h : Addressable i) :
    ((liftM (s.entryPath i) : Work Handle Path) >>= f) = f (s.variablePath i) := by
  rw [entryPath_of_addressable h]
  rfl

theorem bind_entryPath_refused (h : ¬ Addressable i) :
    ((liftM (s.entryPath i) : Work Handle Path) >>= f) = throw (refused i) := by
  rw [entryPath_of_not_addressable h]
  rfl

end EntryPath

/-! ## Identities without an entry name -/

section Refused

variable {Handle : Type} (h : ¬ Addressable i)
include h

theorem read_refused : (s.read i : Work Handle Bytes) = throw (refused i) := bind_entryPath_refused s _ h

theorem readVariable_refused : (s.readVariable i : Work Handle Variable) = throw (refused i) :=
  bind_entryPath_refused s _ h

theorem delete_refused : (s.delete i : Work Handle Outcome) = throw (refused i) := bind_entryPath_refused s _ h

theorem write_refused (payload : Option Bytes) (attributes : Option Attributes) :
    (s.write i payload attributes : Work Handle Outcome) = throw (refused i) := by
  cases payload with
  | none => exact delete_refused h
  | some payload => exact bind_entryPath_refused s _ h

variable (m : Machine)

theorem run_read_refused : m.run (s.read i).run = (.error (refused i), m) := by
  rw [read_refused h]
  rfl

theorem run_readVariable_refused : m.run (s.readVariable i).run = (.error (refused i), m) := by
  rw [readVariable_refused h]
  rfl

theorem run_delete_refused : m.run (s.delete i).run = (.error (refused i), m) := by
  rw [delete_refused h]
  rfl

theorem run_write_refused (payload : Option Bytes) (attributes : Option Attributes) :
    m.run (s.write i payload attributes).run = (.error (refused i), m) := by
  rw [write_refused h]
  rfl

end Refused

/-! ## What the host reads -/

section Read

variable {path : Path} {bytes : Bytes} {failure : Failure}

theorem run_readEntry_of_ok (h : m.files.read m.cwd path = .ok bytes) :
    m.run (readEntry path).run = (.ok bytes, m.heard [.readVariable path bytes.length]) := by
  have hask := Machine.run_ask (.readFile path) (StoreError.ofFailure .read path) m
  simp only [Machine.answer, h] at hask
  exact run_bind_of_ok hask _

theorem run_readEntry_of_error (h : m.files.read m.cwd path = .error failure) :
    m.run (readEntry path).run = (.error (.ofFailure .read path failure), m) := by
  have hask := Machine.run_ask (.readFile path) (StoreError.ofFailure .read path) m
  simp only [Machine.answer, h] at hask
  exact run_bind_of_error hask _

variable (ha : Addressable i)
include ha

theorem run_read_of_ok (h : m.files.read m.cwd (s.variablePath i) = .ok bytes) :
    m.run (s.read i).run = (.ok bytes, m.heard [.readVariable (s.variablePath i) bytes.length]) := by
  rw [read, bind_entryPath s _ ha]
  exact run_readEntry_of_ok h

theorem run_read_of_error (h : m.files.read m.cwd (s.variablePath i) = .error failure) :
    m.run (s.read i).run = (.error (.ofFailure .read (s.variablePath i) failure), m) := by
  rw [read, bind_entryPath s _ ha]
  exact run_readEntry_of_error h

theorem run_readVariable_of_ok (h : m.files.read m.cwd (s.variablePath i) = .ok bytes) :
    m.run (s.readVariable i).run =
      ((Variable.ofBytes? bytes).elim (.error (.truncated (s.variablePath i) bytes.length)) .ok,
        m.heard [.readVariable (s.variablePath i) bytes.length]) := by
  rw [readVariable, bind_entryPath s _ ha, run_bind_of_ok (run_readEntry_of_ok h)]
  cases Variable.ofBytes? bytes <;> rfl

theorem run_readVariable_of_error (h : m.files.read m.cwd (s.variablePath i) = .error failure) :
    m.run (s.readVariable i).run = (.error (.ofFailure .read (s.variablePath i) failure), m) := by
  rw [readVariable, bind_entryPath s _ ha]
  exact run_bind_of_error (run_readEntry_of_error h) _

end Read

/-! ## Identities with a file, or with room for one -/

theorem run_write_some (ha : Addressable i) (m : Machine) (payload : Bytes) (attributes : Option Attributes) :
    m.run (s.write i (some payload) attributes).run =
      m.run (replace (s.variablePath i) ⟨attributes.getD s.config.attributes, payload⟩).run := by
  rw [write, bind_entryPath s _ ha]

/-- **A file that its path leads to holds what was written**, unless it is a device. -/
theorem run_replace_of_locate {path : Path} {loc : Location} (hlocated : m.files.locate m.cwd true path = .ok loc)
    (hdir : m.files.lookup loc ≠ some .directory) (hfull : m.files.lookup loc ≠ some (.device .full)) (v : Variable) :
    m.run (replace path v).run =
      (.ok (.written v.toBytes.length),
        (m.holding (m.files.filled loc v.toBytes)).heard [.wroteVariable path v.attributes v.toBytes.length]) := by
  have hopen := FileSystem.openEmptied_eq_ok_iff.2 ⟨hlocated, hdir, rfl⟩
  have hwrite := (FileSystem.write_filled_eq_ok_iff hdir).2 ⟨.inl hfull, (rfl : m.files.filled loc v.toBytes = _)⟩
  have hopened := Machine.run_ask (.openEmptied path) (StoreError.host .opening path) m
  have hwritten := Machine.run_ask (.writeAll loc v.toBytes) (StoreError.host .write path)
    (m.holding (m.files.filled loc []))
  simp only [Machine.answer, hopen] at hopened
  simp only [Machine.answer, Machine.files_holding, hwrite, Machine.settle] at hwritten
  rw [replace, run_bind_of_ok hopened]
  exact run_bind_of_ok hwritten _

section Addressed

variable {dir : Location} (hroot : LeadsTo m.files m.cwd s.root dir) (ha : Addressable i) (hf : s.Fits i)
  {contents : Option Bytes} (h : m.files.lookup (dir ++ [Utf8.encode i.spell]) = contents.map Node.file)
include hroot ha hf h

theorem read_variablePath :
    m.files.read m.cwd (s.variablePath i) = contents.elim (.error .noEntry) .ok :=
  hroot.read_join (EntryName.isEntry_encode ha hf.entry) hf.path h

/-- **Reading gives the contents.** -/
theorem run_read : m.run (s.read i).run =
    contents.elim (.error (.notFound (s.variablePath i)), m) fun bytes =>
      (.ok bytes, m.heard [.readVariable (s.variablePath i) bytes.length]) := by
  have hread := read_variablePath hroot ha hf h
  cases contents with
  | none => exact run_read_of_error ha hread
  | some bytes => exact run_read_of_ok ha hread

theorem run_readVariable : m.run (s.readVariable i).run =
    contents.elim (.error (.notFound (s.variablePath i)), m) fun bytes =>
      ((Variable.ofBytes? bytes).elim (.error (.truncated (s.variablePath i) bytes.length)) .ok,
        m.heard [.readVariable (s.variablePath i) bytes.length]) := by
  have hread := read_variablePath hroot ha hf h
  cases contents with
  | none => exact run_readVariable_of_error ha hread
  | some bytes => exact run_readVariable_of_ok ha hread

/-- **Deleting clears the entry, and one that is free is no error.** -/
theorem run_delete : m.run (s.delete i).run =
    contents.elim (.ok .absent, m.heard [.nothingToDelete (s.variablePath i)]) fun _ =>
      (.ok .deleted, (m.holding (m.files.erase (dir ++ [Utf8.encode i.spell]))).heard
        [.deletedVariable (s.variablePath i)]) := by
  have hremove : m.files.remove m.cwd (s.variablePath i) = _ :=
    hroot.remove_join (EntryName.isEntry_encode ha hf.entry) hf.path h
  have hasked : m.run (ExceptT.lift (Script.request (.removeFile (s.variablePath i))) :
      Work Location (Except Failure Unit)).run =
        (.ok (m.answer (.removeFile (s.variablePath i))).1, (m.answer (.removeFile (s.variablePath i))).2) := rfl
  rw [delete, bind_entryPath s _ ha, run_bind_of_ok hasked]
  simp only [Machine.answer, hremove]
  cases contents <;> rfl

/-- **Writing leaves exactly the new contents, whatever was there.** -/
theorem run_replace (v : Variable) : m.run (replace (s.variablePath i) v).run =
    (.ok (.written v.toBytes.length),
      (m.holding (m.files.insert (dir ++ [Utf8.encode i.spell]) (.file v.toBytes))).heard
        [.wroteVariable (s.variablePath i) v.attributes v.toBytes.length]) := by
  have hnode : m.files.lookup (dir ++ [Utf8.encode i.spell]) ≠ some .directory ∧
      ∀ kind, m.files.lookup (dir ++ [Utf8.encode i.spell]) ≠ some (.device kind) := by
    rw [h]
    cases contents <;> simp
  have hlocated : m.files.locate m.cwd true (s.variablePath i) = .ok (dir ++ [Utf8.encode i.spell]) :=
    hroot.locate_join (EntryName.isEntry_encode ha hf.entry) hf.path (FileSystem.not_link_of_contents h)
  rw [run_replace_of_locate hlocated hnode.1 (hnode.2 .full), FileSystem.filled_of_not_device hnode.2]

end Addressed

end Store
end FirmwareVars
