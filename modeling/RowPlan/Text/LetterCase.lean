import RowPlan.Text.LetterCase.Table

/-!
# Lower and upper case

Full case conversion of a text, independent of any language: one character may
become several, and a sigma at the end of a word takes its final form.
-/

namespace RowPlan

namespace CaseRun

/-- The code point is in the run. -/
def covers (run : CaseRun) (code : Nat) : Bool :=
  run.first ≤ code && code ≤ run.last && (code - run.first) % run.step == 0

end CaseRun

/-- The image of a code point under the first run that covers it, else itself. -/
def mapCase (runs : List CaseRun) (code : Nat) : Nat :=
  match runs.find? (·.covers code) with
  | some run => ((code : Int) + run.shift).toNat
  | none => code

/-- The lower-case form of one character, taken on its own. -/
def lowerChar (c : Char) : List Char :=
  if c.toNat < 128 then [c.toLower]
  else if c.toNat = 0x130 then ['i', '\u0307']
  else [Char.ofNat (mapCase lowerRuns c.toNat)]

/-- The upper-case form of one character. -/
def upperChar (c : Char) : List Char :=
  if c.toNat < 128 then [c.toUpper]
  else match longUpperTable.find? (·.1 == c.toNat) with
    | some (_, codes) => codes.map Char.ofNat
    | none => [Char.ofNat (mapCase upperRuns c.toNat)]

/-- Whether the first character that is not passed over has letter case. -/
def casedNext (text : List Char) : Bool :=
  match text.dropWhile caseIgnorableTable.contains with
  | c :: _ => casedTable.contains c
  | [] => false

/-- Lower-cases `text`, which follows the reversed text `before`. -/
def lowerAfter (before : List Char) : List Char → List Char
  | [] => []
  | c :: rest =>
      let image :=
        if c = 'Σ' then if casedNext before && !casedNext rest then ['ς'] else ['σ']
        else lowerChar c
      image ++ lowerAfter (c :: before) rest

/-- The lower-case form of a text. -/
def lowerText (text : List Char) : List Char :=
  lowerAfter [] text

/-- The upper-case form of a text. -/
def upperText (text : List Char) : List Char :=
  text.flatMap upperChar

end RowPlan
