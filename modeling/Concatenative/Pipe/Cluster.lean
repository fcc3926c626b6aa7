import Concatenative.Pipe.Conjunct
import Concatenative.Pipe.Pictographic
import Concatenative.Pipe.SpacingMark
import Concatenative.Text.Extending

/-!
# Clusters

A cluster is what a reader takes for one character: a letter with its marks, a syllable, a flag, a
picture put together from several. Texts are cut into clusters by the rules of extended grapheme
clusters. Whether a character begins a cluster depends on the role of that character, on the role of
the one before, and on how far a flag, a picture or a conjunct has come by then (`Context`).

No character is lost: the clusters of a text put together are the text (`flatten_clusters`).
-/

namespace Concatenative.Pipe

open Text

/-- The part that a character plays in clusters. -/
inductive Role
  | plain
  | carriageReturn
  | lineFeed
  /-- Stands alone. -/
  | control
  /-- Belongs to the character before it. -/
  | extending
  /-- Extends, and binds a consonant to the next one. -/
  | linker
  /-- Extends, and binds a pictograph to the next one. -/
  | joiner
  /-- Extends, and parts a consonant from the next one. -/
  | nonJoiner
  /-- Belongs to the character before it and has a width. -/
  | spacing
  /-- Belongs to the character after it. -/
  | prepended
  | consonant
  | pictograph
  /-- Half of a flag. -/
  | regional
  /-- Begins a syllable of an alphabet that is written in syllables. -/
  | leading
  /-- Goes on with a syllable. -/
  | vowel
  /-- Ends a syllable. -/
  | trailing
  /-- A syllable that a vowel or an end can follow. -/
  | openSyllable
  /-- A syllable that only an end can follow. -/
  | closedSyllable
deriving DecidableEq

/-! ## The role of a character -/

/-- The code points with the property Grapheme_Cluster_Break=Control, the ends of lines included. -/
def controlCodePoints : CodePoints :=
  [(0x0, 0x1f), (0x7f, 0x9f), (0xad, 0xad), (0x61c, 0x61c), (0x180e, 0x180e), (0x200b, 0x200b),
    (0x200e, 0x200f), (0x2028, 0x202e), (0x2060, 0x206f), (0xfeff, 0xfeff), (0xfff0, 0xfffb),
    (0x13430, 0x1343f), (0x1bca0, 0x1bca3), (0x1d173, 0x1d17a), (0xe0000, 0xe001f),
    (0xe0080, 0xe00ff), (0xe01f0, 0xe0fff)]

/-- The code points with the property Grapheme_Cluster_Break=Prepend. -/
def prependedCodePoints : CodePoints :=
  [(0x600, 0x605), (0x6dd, 0x6dd), (0x70f, 0x70f), (0x890, 0x891), (0x8e2, 0x8e2), (0xd4e, 0xd4e),
    (0x110bd, 0x110bd), (0x110cd, 0x110cd), (0x111c2, 0x111c3), (0x113d1, 0x113d1),
    (0x1193f, 0x1193f), (0x11941, 0x11941), (0x11a84, 0x11a89), (0x11d46, 0x11d46),
    (0x11f02, 0x11f02)]

/-- The code points with the property Emoji_Modifier, which give a pictograph its colour. -/
def modifierCodePoints : CodePoints :=
  [(0x1f3fb, 0x1f3ff)]

/-- The code points with the property Regional_Indicator. -/
def regionalCodePoints : CodePoints :=
  [(0x1f1e6, 0x1f1ff)]

/-- The code points with the property Grapheme_Cluster_Break=L. -/
def leadingCodePoints : CodePoints :=
  [(0x1100, 0x115f), (0xa960, 0xa97c)]

/-- The code points with the property Grapheme_Cluster_Break=V. -/
def vowelCodePoints : CodePoints :=
  [(0x1160, 0x11a7), (0xd7b0, 0xd7c6), (0x16d63, 0x16d63), (0x16d67, 0x16d6a)]

/-- The code points with the property Grapheme_Cluster_Break=T. -/
def trailingCodePoints : CodePoints :=
  [(0x11a8, 0x11ff), (0xd7cb, 0xd7fb)]

/-- The code points of whole syllables. -/
def syllableCodePoints : CodePoints :=
  [(0xac00, 0xd7a3)]

/-- How many syllables in a row differ only in their ends. The first of them has none. -/
def syllableEnds : Nat := 28

/-- The role of a whole syllable. -/
def Role.ofSyllable (c : Char) : Role :=
  if (c.toNat - 0xac00) % syllableEnds = 0 then .openSyllable else .closedSyllable

/-- The role of a character. -/
def Role.ofChar (c : Char) : Role :=
  if ' ' ≤ c && c ≤ '~' then .plain
  else if c == '\r' then .carriageReturn
  else if c == '\n' then .lineFeed
  else if controlCodePoints.has c then .control
  else if c == '\u200c' then .nonJoiner
  else if c == '\u200d' then .joiner
  else if isLinker c then .linker
  else if isExtending c || modifierCodePoints.has c then .extending
  else if isSpacingMark c then .spacing
  else if prependedCodePoints.has c then .prepended
  else if isConsonant c then .consonant
  else if isPictographic c then .pictograph
  else if regionalCodePoints.has c then .regional
  else if leadingCodePoints.has c then .leading
  else if vowelCodePoints.has c then .vowel
  else if trailingCodePoints.has c then .trailing
  else if syllableCodePoints.has c then .ofSyllable c
  else .plain

namespace Role

/-- Whether a character stands alone, apart from the two that end a line together. -/
def isControl : Role → Bool
  | carriageReturn | lineFeed | control => true
  | _ => false

/-- Whether a character belongs to the one before it, whatever that is. -/
def isDependent : Role → Bool
  | extending | linker | joiner | nonJoiner | spacing => true
  | _ => false

/-- Whether the second character goes on with the syllable that the first one is in. -/
def continuesSyllable : Role → Role → Bool
  | leading, leading | leading, vowel | leading, openSyllable | leading, closedSyllable => true
  | vowel, vowel | vowel, trailing | openSyllable, vowel | openSyllable, trailing => true
  | trailing, trailing | closedSyllable, trailing => true
  | _, _ => false

end Role

/-! ## What came before -/

/-- How far a sequence that may bind the next character has come. -/
inductive Progress
  | absent
  | begun
  /-- The next character of the right role is bound. -/
  | ready
deriving DecidableEq

namespace Progress

/-- A picture: a pictograph, marks, and then a joiner. -/
def ofPicture (progress : Progress) : Role → Progress
  | .pictograph => begun
  | .extending | .linker | .nonJoiner => if progress = begun then begun else absent
  | .joiner => if progress = begun then ready else absent
  | _ => absent

/-- A conjunct: a consonant, and then marks with a linker among them. -/
def ofConjunct (progress : Progress) : Role → Progress
  | .consonant => begun
  | .linker => if progress = absent then absent else ready
  | .extending | .joiner => progress
  | _ => absent

/-- A flag: an odd number of halves. -/
def ofFlag (progress : Progress) : Role → Progress
  | .regional => if progress = ready then absent else ready
  | _ => absent

end Progress

/-- What the next character has to be seen against. -/
structure Context where
  last : Option Role := none
  picture : Progress := .absent
  conjunct : Progress := .absent
  flag : Progress := .absent
deriving DecidableEq

namespace Context

/-- The context after one more character. -/
def next (context : Context) (role : Role) : Context where
  last := role
  picture := context.picture.ofPicture role
  conjunct := context.conjunct.ofConjunct role
  flag := context.flag.ofFlag role

/-- Whether a character begins a cluster. -/
def breaksBefore (context : Context) (role : Role) : Bool :=
  match context.last with
  | none => true
  | some last =>
    if last = .carriageReturn && role = .lineFeed then false
    else if last.isControl || role.isControl then true
    else if last.continuesSyllable role || role.isDependent || last = .prepended then false
    else
      match role with
      | .pictograph => context.picture ≠ .ready
      | .consonant => context.conjunct ≠ .ready
      | .regional => context.flag ≠ .ready
      | _ => true

end Context

/-! ## Cutting a text -/

/-- A text being cut: the context of the next character, the cluster being built, and the finished
ones. Both have their last part first. -/
structure Cutting where
  context : Context := {}
  cluster : List Char := []
  done : List (List Char) := []

namespace Cutting

/-- The finished clusters and the one being built. -/
def close (cutting : Cutting) : List (List Char) :=
  if cutting.cluster.isEmpty then cutting.done else cutting.cluster.reverse :: cutting.done

/-- Takes one character. -/
def step (cutting : Cutting) (c : Char) : Cutting :=
  let role := Role.ofChar c
  let context := cutting.context.next role
  if cutting.context.breaksBefore role then { context, cluster := [c], done := cutting.close }
  else { cutting with context, cluster := c :: cutting.cluster }

/-- The characters taken so far. -/
def text (cutting : Cutting) : List Char :=
  cutting.done.reverse.flatten ++ cutting.cluster.reverse

theorem flatten_reverse_close (cutting : Cutting) :
    cutting.close.reverse.flatten = cutting.text := by
  unfold close text
  split <;> simp_all

theorem text_step (cutting : Cutting) (c : Char) :
    (cutting.step c).text = cutting.text ++ [c] := by
  unfold step
  dsimp only
  split
  · rw [← flatten_reverse_close cutting]
    simp [text]
  · simp [text]

theorem text_foldl_step (cutting : Cutting) (rest : List Char) :
    (rest.foldl step cutting).text = cutting.text ++ rest := by
  induction rest generalizing cutting with
  | nil => simp
  | cons c rest ih => simp [ih, text_step]

end Cutting

/-- The clusters of a text. -/
def clusters (text : List Char) : List (List Char) :=
  (text.foldl Cutting.step {}).close.reverse

/-- The clusters of a text put together are the text. -/
theorem flatten_clusters (text : List Char) : (clusters text).flatten = text := by
  rw [clusters, Cutting.flatten_reverse_close, Cutting.text_foldl_step]
  simp [Cutting.text]

example : clusters ['e', '\u0301', 'x'] = [['e', '\u0301'], ['x']] := by decide +kernel

example : clusters ['\u0915', '\u094d', '\u0937', '\u0915'] =
    [['\u0915', '\u094d', '\u0937'], ['\u0915']] := by
  decide +kernel

example : clusters ['👩', '\u200d', '👧', '🇫', '🇷', '🇩'] =
    [['👩', '\u200d', '👧'], ['🇫', '🇷'], ['🇩']] := by
  decide +kernel

end Concatenative.Pipe
