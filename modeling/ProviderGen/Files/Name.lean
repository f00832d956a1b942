import ProviderGen.Text.Utf8

/-!
Names of the entries of directories. The host keeps names as bytes, which need not be a text, and
lists them in the order of these bytes.
-/

namespace ProviderGen

open Std

structure EntryName where
  bytes : List UInt8
deriving DecidableEq, Repr, Inhabited

namespace EntryName

instance : Ord EntryName := ⟨compareOn EntryName.bytes⟩

instance : TransOrd EntryName := inferInstanceAs (TransCmp (compareOn EntryName.bytes))

instance : LawfulEqOrd EntryName where
  eq_of_compare {a b} same := by
    have bytes : a.bytes = b.bytes := LawfulEqCmp.eq_of_compare same
    cases a; cases b; cases bytes; rfl

def ofText (text : String) : EntryName := ⟨Text.bytes text⟩

instance : Coe String EntryName := ⟨ofText⟩

def text? (name : EntryName) : Option String := Text.ofBytes? name.bytes

def shown (name : EntryName) : String := Text.decodeLossy ⟨name.bytes.toArray⟩

instance : Coe (List String) (List EntryName) := ⟨List.map ofText⟩

end EntryName

end ProviderGen
