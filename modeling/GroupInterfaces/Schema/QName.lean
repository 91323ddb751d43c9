/-!
# Names of schema components

A component of a schema is identified by a qualified name: the namespace it belongs to and a
local name. Qualified names are ordered by namespace first.
-/

namespace GroupInterfaces

open Std

/-- Qualified names. The empty namespace stands for none. -/
structure QName where
  space : String
  localName : String
deriving DecidableEq, Inhabited

namespace QName

instance : Ord QName := ⟨compareLex (compareOn space) (compareOn localName)⟩

instance : TransOrd QName :=
  inferInstanceAs (TransCmp (compareLex (compareOn space) (compareOn localName)))

instance : LawfulEqOrd QName where
  compare_self {a} := by
    have spaces : compare a.space a.space = .eq := ReflCmp.compare_self
    have locals : compare a.localName a.localName = .eq := ReflCmp.compare_self
    change (compare a.space a.space).then (compare a.localName a.localName) = .eq
    rw [spaces, locals]
    rfl
  eq_of_compare {a b} h := by
    have both : compare a.space b.space = .eq ∧ compare a.localName b.localName = .eq := by
      simpa [compare, compareLex, compareOn] using h
    obtain ⟨space₁, local₁⟩ := a
    obtain ⟨space₂, local₂⟩ := b
    have spaces : space₁ = space₂ := LawfulEqCmp.eq_of_compare both.1
    have locals : local₁ = local₂ := LawfulEqCmp.eq_of_compare both.2
    rw [spaces, locals]

/-- The name with its namespace in braces in front, if it has one. -/
def clark (q : QName) : String :=
  if q.space = "" then q.localName else "\x7b" ++ q.space ++ "\x7d" ++ q.localName

end QName

/-- A place in a schema document; lines and columns count from one. -/
structure Locator where
  systemId : String := ""
  line : UInt32 := 0
  column : UInt32 := 0
deriving DecidableEq, Inhabited

/-- The place in the usual short form. -/
def Locator.display (l : Locator) : String :=
  l.systemId ++ ":" ++ toString l.line.toNat ++ ":" ++ toString l.column.toNat

end GroupInterfaces
