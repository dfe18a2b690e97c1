/-!
# The three operations

A program is written with three operations. Each of `nop` and `jmp` is the
counterpart of the other: a corrupted program has one of the two where the other
belongs. `acc` is never corrupted and has no counterpart.
-/
namespace LoopRepair

inductive Operation where
  | nop | acc | jmp
  deriving DecidableEq, Repr

namespace Operation

/-- The lower-case word by which an operation is written. -/
def mnemonic : Operation → List Char
  | .nop => ['n', 'o', 'p']
  | .acc => ['a', 'c', 'c']
  | .jmp => ['j', 'm', 'p']

instance : ToString Operation := ⟨fun op => String.ofList op.mnemonic⟩

/-- The operation with this mnemonic; the case of ASCII letters does not matter. -/
def ofMnemonic? (word : List Char) : Option Operation :=
  [nop, acc, jmp].find? fun op => op.mnemonic = word.map Char.toLower

/-- The operation that a flip puts in place of this one. -/
def counterpart? : Operation → Option Operation
  | .nop => some .jmp
  | .jmp => some .nop
  | .acc => none

theorem ofMnemonic?_eq_some_iff {word : List Char} {op : Operation} :
    ofMnemonic? word = some op ↔ word.map Char.toLower = op.mnemonic := by
  constructor
  · intro h
    unfold ofMnemonic? at h
    have found := List.find?_some h
    simpa [eq_comm] using found
  · intro h
    cases op <;> simp [ofMnemonic?, h, mnemonic]

theorem ofMnemonic?_mnemonic (op : Operation) : ofMnemonic? op.mnemonic = some op := by
  cases op <;> rfl

end Operation
end LoopRepair
