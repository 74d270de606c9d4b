/-!
# Federation.Page — windows of a listing

A page says how many entries of a listing to skip and, unless it is unbounded, how many to return
at most.
-/

namespace Federation

/-- A window of a listing; no limit means everything from the offset on. -/
structure Page where
  offset : UInt64
  limit : Option UInt64
deriving DecidableEq

namespace Page

/-- The page that shows everything. -/
def everything : Page := ⟨0, none⟩

/-- The entries of a listing that lie in the window. -/
def window {α : Type} (p : Page) (entries : List α) : List α :=
  match p.limit with
  | some n => (entries.drop p.offset.toNat).take n.toNat
  | none => entries.drop p.offset.toNat

end Page

end Federation
