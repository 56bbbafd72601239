/-!
# Words

The names of tags, placeholders and bindings are words: nonempty runs of letters, digits and
underscores. The class is ASCII on purpose, so a name that can be bound is a name that a template
can spell.
-/

namespace RichTemplate

/-- ASCII letters, ASCII digits and the underscore. -/
def isWordChar (c : Char) : Bool :=
  c.isAlphanum || c == '_'

def isWord (s : String) : Bool :=
  !s.toList.isEmpty && s.toList.all isWordChar

def wordRun (cs : List Char) : List Char :=
  cs.takeWhile isWordChar

def afterWord (cs : List Char) : List Char :=
  cs.dropWhile isWordChar

theorem wordRun_append_afterWord (cs : List Char) : wordRun cs ++ afterWord cs = cs :=
  List.takeWhile_append_dropWhile

theorem isWordChar_of_mem_wordRun {c : Char} {cs : List Char} (h : c ∈ wordRun cs) :
    isWordChar c = true := by
  induction cs with
  | nil => simp [wordRun] at h
  | cons d ds ih =>
    by_cases hd : isWordChar d = true
    · simp only [wordRun, List.takeWhile_cons, hd, if_true, List.mem_cons] at h
      rcases h with rfl | h
      · exact hd
      · exact ih h
    · simp [wordRun, hd] at h

end RichTemplate
