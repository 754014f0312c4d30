import Mathlib
import StructSync.CType.Resolve
import StructSync.Proofs.CType.Grammar

/-!
# Canonical spellings of integer types

The canonical spelling of an integer type is made of words (`IntegerType.words`) that name the same
type again (`ofWords?_words`), and every host knows it as an integer (`builtin?_name`). There are
few enough types to go through all of them.
-/

namespace StructSync

/-- The words of the canonical spelling. -/
def IntegerRank.words : IntegerRank → List String
  | longLong => ["long", "long"]
  | rank => [rank.name]

namespace IntegerType

/-- The words of the canonical spelling. -/
def words : IntegerType → List String
  | char => ["char"]
  | signedChar => ["signed", "char"]
  | unsignedChar => ["unsigned", "char"]
  | ranked false rank => rank.words
  | ranked true rank => "unsigned" :: rank.words

theorem intercalate_words (t : IntegerType) : " ".intercalate t.words = t.name := by
  rcases t with _ | _ | _ | ⟨_ | _, _ | _ | _ | _ | ⟨_ | _ | _ | _ | _⟩⟩ <;> decide +kernel

theorem ofWords?_words (t : IntegerType) : ofWords? t.words = some t := by
  rcases t with _ | _ | _ | ⟨_ | _, _ | _ | _ | _ | ⟨_ | _ | _ | _ | _⟩⟩ <;> decide +kernel

theorem builtin?_name (t : IntegerType) : ∃ size, builtin? t.name = some (.integer size) := by
  rcases t with _ | _ | _ | ⟨_ | _, _ | _ | _ | _ | ⟨_ | _ | _ | _ | _⟩⟩ <;> exact ⟨_, rfl⟩

/-- The words are words of a declaration, and none of them is left out. -/
theorem words_plain (t : IntegerType) :
    t.words ≠ [] ∧ ∀ w ∈ t.words, IsWord w.toList ∧ isQualifier w = false := by
  rcases t with _ | _ | _ | ⟨_ | _, _ | _ | _ | _ | ⟨_ | _ | _ | _ | _⟩⟩ <;> decide +kernel

end IntegerType

end StructSync
