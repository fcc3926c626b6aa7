import Concatenative.Pipe.Cluster

/-!
# Backspaces

A line that was not edited while it was typed may hold backspaces. Each takes back the cluster
before it, and nothing at the start of the line. The width of a cluster is remembered in one byte,
so of a longer cluster only the bytes beyond a multiple of `Typed.widthLimit` are taken back.
-/

namespace Concatenative.Pipe

open Text

/-- The backspace character. -/
def backspace : Char := '\x08'

/-- What has been typed: the characters, the last one first, and the widths of the clusters that can
be taken back, the last one first. -/
structure Typed where
  chars : List Char := []
  widths : List Nat := []
deriving DecidableEq

namespace Typed

/-- Widths are counted modulo this number. -/
def widthLimit : Nat := 256

/-- The number of bytes in a cluster. -/
def width (cluster : List Char) : Nat :=
  (String.ofList cluster).utf8ByteSize

/-- The characters that are left of `chars` when so many bytes at its front are dropped. -/
def dropBytes (count : Nat) : List Char → List Char
  | [] => []
  | c :: chars => if c.utf8Size ≤ count then dropBytes (count - c.utf8Size) chars else c :: chars

/-- Types a cluster. -/
def put (typed : Typed) (cluster : List Char) : Typed where
  chars := cluster.reverseAux typed.chars
  widths := width cluster % widthLimit :: typed.widths

/-- Takes back a cluster. -/
def takeBack (typed : Typed) : Typed :=
  match typed.widths with
  | [] => typed
  | last :: widths => { chars := dropBytes last typed.chars, widths }

/-- Types a cluster, or takes one back. -/
def step (typed : Typed) (cluster : List Char) : Typed :=
  if cluster = [backspace] then typed.takeBack else typed.put cluster

theorem chars_foldl_step {typed : Typed} {row : List (List Char)} (h : [backspace] ∉ row) :
    (row.foldl step typed).chars = row.flatten.reverse ++ typed.chars := by
  induction row generalizing typed with
  | nil => simp
  | cons cluster row ih =>
    rw [List.mem_cons, not_or] at h
    rw [List.foldl_cons, ih h.2, step, if_neg (Ne.symm h.1)]
    simp [put, List.reverseAux_eq]

end Typed

/-- The text after its backspaces have had their effect. -/
def applyBackspaces (text : String) : String :=
  String.ofList ((clusters text.toList).foldl Typed.step {}).chars.reverse

/-- A text without backspaces is left alone. -/
theorem applyBackspaces_eq_self {text : String} (h : backspace ∉ text.toList) :
    applyBackspaces text = text := by
  have absent : [backspace] ∉ clusters text.toList := by
    intro mem
    apply h
    rw [← flatten_clusters text.toList]
    exact List.mem_flatten.2 ⟨_, mem, List.mem_singleton_self _⟩
  simp [applyBackspaces, Typed.chars_foldl_step absent, flatten_clusters]

example : applyBackspaces "\x08ab\x08c" = "ac" := by decide +kernel

end Concatenative.Pipe
