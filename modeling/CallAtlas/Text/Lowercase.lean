import CallAtlas.Text.CaseTable

/-!
# Lowercase

Full lowercase of a text, independent of any locale. Two characters are not mapped one by one: the
capital I with a dot becomes two characters, and the capital sigma becomes the final sigma at the
end of a word.
-/

namespace CallAtlas.Text

/-- The lowercase form of a character within a run. -/
def CaseRun.lower? (run : CaseRun) (c : Char) : Option Char :=
  if run.first ≤ c.toNat ∧ c.toNat ≤ run.last ∧ (c.toNat - run.first) % run.step = 0 then
    some (Char.ofNat (run.lower + (c.toNat - run.first)))
  else none

/-- The lowercase form of a character that has one of one character, else the character. -/
def lowerChar (c : Char) : Char :=
  (caseRuns.findSome? fun run => run.lower? c).getD c

/-- Whether the first character that is not case-ignorable is cased. -/
def casedAhead (s : List Char) : Bool :=
  match s.dropWhile caseIgnorableRanges.has with
  | [] => false
  | c :: _ => casedRanges.has c

/-- The sigma between the text before it, read backwards, and the text behind it: a word ends
here if a cased character comes before it and none behind. -/
def sigmaBetween (before after : List Char) : Char :=
  if casedAhead before && !casedAhead after then 'ς' else 'σ'

/-- Lowercase of the text behind `before`, which is given backwards. -/
def lowerAfter (before : List Char) : List Char → List Char
  | [] => []
  | c :: rest =>
    let image :=
      if c = 'Σ' then [sigmaBetween before rest]
      else if c = 'İ' then ['i', '\u0307']
      else [lowerChar c]
    image ++ lowerAfter (c :: before) rest

def lowercase (s : String) : String :=
  String.ofList (lowerAfter [] s.toList)

end CallAtlas.Text
