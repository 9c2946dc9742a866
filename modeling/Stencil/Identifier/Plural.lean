import Stencil.Text.Split

/-!
# Plurals of English words

A word that has no plural stays, a few words have forms of their own, and for all others the first
rule of `rules` that fits decides. A rule looks at the end of the word and keeps only the word
characters that lead up to it, so what stands before the last word of a phrase is dropped by a rule
and kept by the default, which adds an s. Words and rules are those of `cruet` 0.15.0.
-/
namespace Stencil.Identifier.Plural
open Stencil.Unicode

/-- Words that are their own plural. -/
def uncountable : List String :=
  [ "accommodation", "adulthood", "advertising", "advice", "aggression", "aid", "air",
    "aircraft", "alcohol", "anger", "applause", "arithmetic", "assistance", "athletics",
    "bacon", "baggage", "beef", "biology", "blood", "botany", "bread", "butter", "carbon",
    "cardboard", "cash", "chalk", "chaos", "chess", "crossroads", "countryside", "dancing",
    "deer", "dignity", "dirt", "dust", "economics", "education", "electricity", "engineering",
    "enjoyment", "envy", "equipment", "ethics", "evidence", "evolution", "fame", "fiction",
    "flour", "flu", "food", "fuel", "fun", "furniture", "gallows", "garbage", "garlic",
    "genetics", "gold", "golf", "gossip", "grammar", "gratitude", "grief", "guilt",
    "gymnastics", "happiness", "hardware", "harm", "hate", "hatred", "health", "heat", "help",
    "homework", "honesty", "honey", "hospitality", "housework", "humour", "hunger", "hydrogen",
    "ice", "importance", "inflation", "information", "innocence", "iron", "irony", "jam",
    "jewelry", "judo", "karate", "knowledge", "lack", "laughter", "lava", "leather", "leisure",
    "lightning", "linguine", "linguini", "linguistics", "literature", "litter", "livestock",
    "logic", "loneliness", "luck", "luggage", "macaroni", "machinery", "magic", "management",
    "mankind", "marble", "mathematics", "mayonnaise", "measles", "methane", "milk", "minus",
    "money", "mud", "music", "mumps", "nature", "news", "nitrogen", "nonsense", "nurture",
    "nutrition", "obedience", "obesity", "oxygen", "pasta", "patience", "physics", "poetry",
    "pollution", "poverty", "pride", "psychology", "publicity", "punctuation", "quartz",
    "racism", "relaxation", "reliability", "research", "respect", "revenge", "rice", "rubbish",
    "rum", "safety", "scenery", "seafood", "seaside", "series", "shame", "sheep", "shopping",
    "sleep", "smoke", "smoking", "snow", "soap", "software", "soil", "spaghetti", "species",
    "steam", "stuff", "stupidity", "sunshine", "symmetry", "tennis", "thirst", "thunder",
    "timber", "traffic", "transportation", "trust", "underwear", "unemployment", "unity",
    "validity", "veal", "vegetation", "vegetarianism", "vengeance", "violence", "vitality",
    "warmth", "wealth", "weather", "wheat", "wildlife", "wisdom", "yoga", "zinc", "zoology" ]

/-- Words with a plural of their own. -/
def special : List (String × String) :=
  [ ("ox", "oxen"), ("man", "men"), ("woman", "women"), ("die", "dice"), ("yes", "yeses"),
    ("foot", "feet"), ("eave", "eaves"), ("goose", "geese"), ("tooth", "teeth"),
    ("quiz", "quizzes") ]

/-- A piece of the ending that a rule looks for. -/
inductive Piece
  /-- These letters. -/
  | text (letters : String)
  /-- One of these letters. -/
  | oneOf (letters : String)
  /-- Any one character but these letters. -/
  | noneOf (letters : String)

/-- A word ending and what becomes of it: the word must end in one of `stems` followed by one of
`endings`; the stem stays and the ending becomes `becomes`. -/
structure Rule where
  stems : List (List Piece)
  endings : List String
  becomes : String

/-- The rules in the order in which they are tried. -/
def rules : List Rule :=
  [
    ⟨[[.text "eaux"]], [""], ""⟩,
    ⟨[[.text "child"]], ["", "ren"], "ren"⟩,
    ⟨[[.text "pe"]], ["rson", "ople"], "ople"⟩,
    ⟨[[.text "m"], [.text "l"]], ["ice", "ouse"], "ice"⟩,
    ⟨[[.text "matr"], [.text "cod"], [.text "mur"], [.text "sil"], [.text "vert"], [.text
        "ind"], [.text "append"]],
      ["ix", "ex"], "ices"⟩,
    ⟨[[.text "x"], [.text "ch"], [.text "ss"], [.text "sh"], [.text "zz"]], [""], "es"⟩,
    ⟨[[.text "xes"], [.text "ches"], [.text "sses"], [.text "shes"], [.text "zzes"]], [""], ""⟩,
    ⟨[[.noneOf "ch", .oneOf "ieo", .oneOf "ln"]], ["ey"], "ies"⟩,
    ⟨[[.noneOf "aeiouy"], [.text "qu"]], ["y"], "ies"⟩,
    ⟨[[.text "ar"], [.text "l"], [.text "ea"], [.text "eo"], [.text "oa"], [.text "hoo"]],
      ["f"], "ves"⟩,
    ⟨[[.text "kni"], [.text "wi"], [.text "li"]], ["fe"], "ves"⟩,
    ⟨[[]], ["sis"], "ses"⟩,
    ⟨[[.text "apheli"], [.text "hyperbat"], [.text "periheli"], [.text "asyndet"], [.text
        "noumen"], [.text "phenomen"], [.text "criteri"], [.text "organ"], [.text
        "prolegomen"], [.text "hedr"], [.text "automat"]],
      ["a", "on"], "a"⟩,
    ⟨[[.text "agend"], [.text "addend"], [.text "millenni"], [.text "dat"], [.text
        "extrem"], [.text "bacteri"], [.text "desiderat"], [.text "strat"], [.text
        "candelabr"], [.text "errat"], [.text "ov"], [.text "symposi"], [.text "curricul"],
        [.text "automat"], [.text "quor"]],
      ["a", "um"], "a"⟩,
    ⟨[[.text "her"], [.text "at"], [.text "gr"]], ["o"], "oes"⟩,
    ⟨[[.text "seraph"], [.text "cherub"]], ["", "im"], "im"⟩,
    ⟨[[.text "alumn"], [.text "alg"], [.text "vertebr"]], ["a", "ae"], "ae"⟩,
    ⟨[[.text "alumn"], [.text "syllab"], [.text "octop"], [.text "vir"], [.text "radi"],
        [.text "nucle"], [.text "fung"], [.text "cact"], [.text "stimul"], [.text "termin"],
        [.text "bacill"], [.text "foc"], [.text "uter"], [.text "loc"], [.text "strat"]],
      ["us", "i"], "i"⟩,
    ⟨[[.noneOf "l", .text "ias"], [.oneOf "aeiou", .text "las"], [.oneOf "emjzr", .text
        "as"], [.oneOf "iu", .text "am"]],
      [""], ""⟩,
    ⟨[[.text "e", .oneOf "mn", .text "u"]], ["", "s"], "s"⟩,
    ⟨[[.text "alias"], [.noneOf "aou", .text "us"], [.text "tlas"], [.text "gas"], [.text
        "ris"]],
      [""], "es"⟩,
    ⟨[[.text "ax"], [.text "test"]], ["is"], "es"⟩,
    ⟨[[.noneOf "aeiou", .text "ese"]], [""], ""⟩,
    ⟨[[]], ["s"], "s"⟩ ]

/-- What remains of a reversed text when the reversed piece is taken off its front. -/
def Piece.strip (piece : Piece) (reversed : List Char) : Option (List Char) :=
  match piece with
  | .text letters => Text.afterStart letters.toList.reverse reversed
  | .oneOf letters =>
    match reversed with
    | c :: rest => if letters.toList.contains c then some rest else none
    | [] => none
  | .noneOf letters =>
    match reversed with
    | c :: rest => if letters.toList.contains c then none else some rest
    | [] => none

/-- The reversed text without a stem at its front; the pieces are given last one first. -/
def stripStem : List Piece → List Char → Option (List Char)
  | [], reversed => some reversed
  | piece :: pieces, reversed => (piece.strip reversed).bind (stripStem pieces)

/-- The part of the word that a rule keeps for one stem and one ending: the stem and the word
characters before it. -/
def kept (word : List Char) (stem : List Piece) (ending : String) : Option (List Char) := do
  let reversed ← Text.afterStart ending.toList.reverse word.reverse
  let before ← stripStem stem.reverse reversed
  let run := (before.takeWhile isWordChar).length
  pure (reversed.take (reversed.length - before.length + run)).reverse

/-- The longer of two texts, the first of two equally long ones. -/
def longer (a b : Option (List Char)) : Option (List Char) :=
  match a, b with
  | some x, some y => if x.length < y.length then some y else some x
  | some x, none => some x
  | none, y => y

/-- The plural by one rule, if it fits. Of several stems that fit the one that keeps most counts. -/
def Rule.apply (rule : Rule) (word : List Char) : Option (List Char) :=
  let choices := rule.stems.flatMap fun stem => rule.endings.map (kept word stem)
  (choices.foldl longer none).map (· ++ rule.becomes.toList)

def plural (word : String) : String :=
  if uncountable.contains word then word
  else match special.lookup word with
    | some form => form
    | none =>
      match rules.findSome? (·.apply word.toList) with
      | some form => String.ofList form
      | none => word ++ "s"

end Stencil.Identifier.Plural
