import LamApp.Text.Cluster

/-!
# Typed text

A typed line may hold backspaces. Each of them takes back what was typed last,
as its reader sees it: a whole cluster. All that is kept of the clusters for it
are their sizes in bytes.

Main statements: if the sizes could be kept, each backspace takes back one
whole cluster, and a text without backspaces stays as it is.
-/

namespace LamApp
namespace Text

/-- The backspace character. -/
def backspace : Char :=
  '\x08'

/-- The bytes that characters take. -/
def byteCount : List Char → Nat
  | [] => 0
  | c :: cs => c.utf8Size + byteCount cs

/-- Drops characters that together take a number of bytes. -/
def dropBytes : Nat → List Char → List Char
  | 0, cs => cs
  | _ + 1, [] => []
  | n + 1, c :: cs => dropBytes (n + 1 - c.utf8Size) cs

/-- Sizes are kept in one byte each, and larger ones wrap around. -/
def sizeBound : Nat :=
  256

/-- A text with a memory for the sizes of its clusters. -/
structure Erasable where
  /-- What is left of the text, last character first. -/
  shown : List Char
  /-- The sizes of the clusters that can be taken back, last one first. -/
  sizes : List Nat

namespace Erasable

def empty : Erasable :=
  ⟨[], []⟩

/-- Takes back the last cluster; there may be none. -/
def erase (text : Erasable) : Erasable :=
  match text.sizes with
  | [] => text
  | size :: sizes => ⟨dropBytes size text.shown, sizes⟩

/-- Adds a cluster. -/
def add (text : Erasable) (cluster : List Char) : Erasable :=
  ⟨cluster.reverse ++ text.shown, byteCount cluster % sizeBound :: text.sizes⟩

/-- What the next typed cluster does. -/
def type (text : Erasable) (cluster : List Char) : Erasable :=
  if cluster = [backspace] then text.erase else text.add cluster

end Erasable

theorem byteCount_append (cs cs' : List Char) :
    byteCount (cs ++ cs') = byteCount cs + byteCount cs' := by
  induction cs with
  | nil => simp [byteCount]
  | cons c cs ih =>
    rw [List.cons_append, byteCount, byteCount, ih, Nat.add_assoc]

theorem byteCount_reverse (cs : List Char) :
    byteCount cs.reverse = byteCount cs := by
  induction cs with
  | nil => rfl
  | cons c cs ih =>
    rw [List.reverse_cons, byteCount_append, ih]
    simp [byteCount, Nat.add_comm]

theorem dropBytes_append (cs rest : List Char) :
    dropBytes (byteCount cs) (cs ++ rest) = rest := by
  induction cs with
  | nil => simp [byteCount, dropBytes]
  | cons c cs ih =>
    obtain ⟨n, hn⟩ : ∃ n, byteCount (c :: cs) = n + 1 := by
      refine ⟨byteCount (c :: cs) - 1, ?_⟩
      have hc := c.utf8Size_pos
      simp only [byteCount]
      omega
    have hrest : n + 1 - c.utf8Size = byteCount cs := by
      rw [← hn]
      simp [byteCount]
    rw [hn, List.cons_append, dropBytes, hrest, ih]

/-- A backspace takes back the cluster that was typed last, if its size could
be kept. -/
theorem erase_add
    (text : Erasable) (cluster : List Char)
    (h : byteCount cluster < sizeBound) :
    (text.add cluster).erase = text := by
  have hsize : byteCount cluster % sizeBound = byteCount cluster.reverse := by
    rw [Nat.mod_eq_of_lt h, byteCount_reverse]
  simp [Erasable.erase, Erasable.add, hsize, dropBytes_append]

/-- The text that is left when all backspaces are carried out. -/
def withoutBackspaces (cs : List Char) : List Char :=
  ((clusters cs).foldl Erasable.type .empty).shown.reverse

/-- A line without its line end. -/
def withoutLineEnd (cs : List Char) : List Char :=
  match cs.reverse with
  | '\n' :: '\r' :: rest => rest.reverse
  | '\n' :: rest => rest.reverse
  | _ => cs

/-- The text of a line as it was read. -/
def ofTyped (line : String) : String :=
  String.ofList (withoutBackspaces (withoutLineEnd line.toList))

theorem shown_foldl_add
    (pieces : List (List Char)) (text : Erasable) :
    (pieces.foldl Erasable.add text).shown =
      pieces.flatten.reverse ++ text.shown := by
  induction pieces generalizing text with
  | nil => rfl
  | cons piece pieces ih => simp [ih, Erasable.add]

/-! ## Clusters that are taken back -/

/-- What the next typed cluster does to the clusters that are left. -/
def edit (left : List (List Char)) (cluster : List Char) : List (List Char) :=
  if cluster = [backspace] then left.dropLast else left ++ [cluster]

/-- The text of some clusters, each of which can be taken back. -/
def Erasable.ofClusters (left : List (List Char)) : Erasable :=
  left.foldl Erasable.add .empty

theorem mem_or_eq_of_mem_edit
    {left : List (List Char)} {cluster piece : List Char}
    (h : piece ∈ edit left cluster) :
    piece ∈ left ∨ piece = cluster := by
  unfold edit at h
  split at h
  · exact .inl (left.dropLast_prefix.mem h)
  · simpa using h

theorem type_ofClusters
    {left : List (List Char)}
    (hleft : ∀ piece ∈ left, byteCount piece < sizeBound)
    (cluster : List Char) :
    (Erasable.ofClusters left).type cluster =
      .ofClusters (edit left cluster) := by
  unfold Erasable.type edit
  split
  · rcases List.eq_nil_or_concat left with rfl | ⟨front, last, rfl⟩
    · rfl
    · rw [List.concat_eq_append] at hleft ⊢
      rw [List.dropLast_concat, Erasable.ofClusters, List.foldl_append]
      exact erase_add _ last (hleft last (by simp))
  · rw [Erasable.ofClusters, Erasable.ofClusters, List.foldl_append]
    rfl

theorem foldl_type_ofClusters
    {pieces left : List (List Char)}
    (hleft : ∀ piece ∈ left, byteCount piece < sizeBound)
    (hpieces : ∀ piece ∈ pieces, byteCount piece < sizeBound) :
    pieces.foldl Erasable.type (.ofClusters left) =
      .ofClusters (pieces.foldl edit left) := by
  induction pieces generalizing left with
  | nil => rfl
  | cons piece pieces ih =>
    have hedit : ∀ p ∈ edit left piece, byteCount p < sizeBound := by
      intro p hp
      rcases mem_or_eq_of_mem_edit hp with hmem | rfl
      · exact hleft p hmem
      · exact hpieces p (by simp)
    rw [List.foldl_cons, List.foldl_cons, type_ofClusters hleft]
    exact ih hedit fun p hp => hpieces p (by simp [hp])

/-- If the size of every cluster can be kept, each backspace takes back the
last cluster that is left. -/
theorem withoutBackspaces_eq_flatten
    {cs : List Char}
    (h : ∀ piece ∈ clusters cs, byteCount piece < sizeBound) :
    withoutBackspaces cs = ((clusters cs).foldl edit []).flatten := by
  have hnone : ∀ piece ∈ [], byteCount piece < sizeBound := by simp
  have hfold : (clusters cs).foldl Erasable.type .empty =
      .ofClusters ((clusters cs).foldl edit []) :=
    foldl_type_ofClusters hnone h
  rw [withoutBackspaces, hfold, Erasable.ofClusters, shown_foldl_add]
  simp [Erasable.empty]

theorem foldl_type_of_not_mem
    {pieces : List (List Char)} (h : [backspace] ∉ pieces)
    (text : Erasable) :
    pieces.foldl Erasable.type text = pieces.foldl Erasable.add text := by
  induction pieces generalizing text with
  | nil => rfl
  | cons piece pieces ih =>
    rw [List.mem_cons, not_or] at h
    obtain ⟨hpiece, hrest⟩ := h
    rw [List.foldl_cons, List.foldl_cons, ih hrest, Erasable.type,
      if_neg (Ne.symm hpiece)]

/-- A text without backspaces stays as it is. -/
theorem withoutBackspaces_of_not_mem
    {cs : List Char} (h : backspace ∉ cs) : withoutBackspaces cs = cs := by
  have hpieces : [backspace] ∉ clusters cs := by
    intro hmem
    apply h
    rw [← flatten_clusters cs]
    exact List.mem_flatten.2 ⟨[backspace], hmem, by simp⟩
  rw [withoutBackspaces, foldl_type_of_not_mem hpieces, shown_foldl_add,
    flatten_clusters]
  simp [Erasable.empty]

end Text
end LamApp
