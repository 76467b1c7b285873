/-!
# Finding text in text

`Text.occursIn` says whether one text occurs in another as a contiguous run of characters.
-/

namespace AgentLink.Text

/-- Whether `needle` occurs in `hay` as a contiguous run. -/
def occursInList (needle : List Char) : List Char → Bool
  | [] => needle.isEmpty
  | c :: cs => needle.isPrefixOf (c :: cs) || occursInList needle cs

/-- Whether `needle` occurs in `hay`. -/
def occursIn (needle hay : String) : Bool :=
  occursInList needle.toList hay.toList

theorem occursInList_nil (hay : List Char) : occursInList [] hay = true := by
  cases hay <;> simp [occursInList]

end AgentLink.Text
