import ScriptDigest.Proofs.Synopsis.Sections

/-!
# Blocks put in one after the other

A synopsis may be offered any number of blocks for its section on the globals. The place for the next one is looked for anew each
time, among fragments that hold the blocks put in before, and a block may itself read like the heading of the globals. All the
same the place stays where it is: it is behind the first such heading, and whatever is put in comes behind that heading too
(`offer_append_cons`). So the blocks are stacked under it with the last one on top, and a synopsis without the heading takes none
of them (`offerAll_blocks`).
-/

namespace ScriptDigest.Synopsis

/-- What comes of offering a block: the synopsis afterwards, and whether the block has been put in. -/
def offer (s : Synopsis) (block : Text) : Synopsis × Bool :=
  ((s.insertGlobals? block).getD s, (s.insertGlobals? block).isSome)

/-- What comes of offering blocks in order: the synopsis behind the last one, and the answer to each of them. -/
def offerAll (s : Synopsis) : List Text → Synopsis × List Bool
  | [] => (s, [])
  | block :: blocks =>
    let offered := s.offer block
    let rest := offered.1.offerAll blocks
    (rest.1, offered.2 :: rest.2)

/-- A synopsis without a heading of the globals takes no block. -/
theorem offer_of_not_mem {s : Synopsis} (h : globalsTitle ∉ s.fragments) (block : Text) : s.offer block = (s, false) := by
  rw [offer, insertGlobals?, insertBehind?_of_not_mem h]
  rfl

/-- A block is put in directly behind the first heading of the globals. -/
theorem offer_append_cons {front : List Text} (h : globalsTitle ∉ front) (rest : List Text) (contents : List ContentsEntry)
    (block : Text) :
    offer ⟨front ++ globalsTitle :: rest, contents⟩ block = (⟨front ++ globalsTitle :: block :: rest, contents⟩, true) := by
  rw [offer, insertGlobals?, insertBehind?_append_cons h]
  rfl

theorem offerAll_of_not_mem {s : Synopsis} (h : globalsTitle ∉ s.fragments) (blocks : List Text) :
    s.offerAll blocks = (s, List.replicate blocks.length false) := by
  induction blocks with
  | nil => rfl
  | cons block blocks ih =>
    rw [offerAll, offer_of_not_mem h, ih]
    rfl

/-- Blocks are stacked behind the first heading of the globals. -/
theorem offerAll_append_cons {front : List Text} (h : globalsTitle ∉ front) (rest : List Text) (contents : List ContentsEntry)
    (blocks : List Text) :
    offerAll ⟨front ++ globalsTitle :: rest, contents⟩ blocks =
      (⟨front ++ globalsTitle :: (blocks.reverse ++ rest), contents⟩, List.replicate blocks.length true) := by
  -- What lies in front of the heading is the same for every block, and what lies behind it grows by one.
  induction blocks generalizing rest with
  | nil => rfl
  | cons block blocks ih =>
    have hstack : blocks.reverse ++ block :: rest = (block :: blocks).reverse ++ rest := by
      rw [List.reverse_cons, List.append_assoc, List.singleton_append]
    rw [offerAll, offer_append_cons h, ih, hstack]
    rfl

/-- What becomes of blocks that are offered to a synopsis in order, in three parts.
1. Without a heading of the globals every block is refused, and the synopsis stays as it is.
2. Otherwise its fragments can be taken apart at the first such heading.
3. However they are taken apart there, every block is put in, the blocks lie directly behind that heading with the last one on
   top, and nothing else changes. -/
theorem offerAll_blocks (s : Synopsis) (blocks : List Text) :
    (globalsTitle ∉ s.fragments → s.offerAll blocks = (s, List.replicate blocks.length false)) ∧
      (globalsTitle ∈ s.fragments → ∃ front rest, s.fragments = front ++ globalsTitle :: rest ∧ globalsTitle ∉ front) ∧
      ∀ front rest, s.fragments = front ++ globalsTitle :: rest → globalsTitle ∉ front →
        s.offerAll blocks =
          ({ s with fragments := front ++ globalsTitle :: (blocks.reverse ++ rest) }, List.replicate blocks.length true) := by
  refine ⟨fun h => offerAll_of_not_mem h blocks, fun h => List.eq_append_cons_of_mem h, fun front rest hsplit hfront => ?_⟩
  obtain ⟨fragments, contents⟩ := s
  obtain rfl : fragments = front ++ globalsTitle :: rest := hsplit
  exact offerAll_append_cons hfront rest contents blocks

/-- Two blocks, the first of which reads like the heading itself, are offered to a synopsis with two headings of the globals, and
to one without any. -/
theorem offerAll_blocks_titled :
    let titled : Synopsis := ⟨["above".toList, globalsTitle, "below".toList, globalsTitle], [⟨4, "Globals".toList⟩]⟩
    let untitled : Synopsis := ⟨["### Globals".toList], []⟩
    let blocks := [globalsTitle, "vars".toList]
    globalsTitle ∉ ["above".toList] ∧ globalsTitle ∉ untitled.fragments ∧
      titled.offerAll blocks = (⟨["above".toList, globalsTitle, "vars".toList, globalsTitle, "below".toList, globalsTitle],
        [⟨4, "Globals".toList⟩]⟩, [true, true]) ∧
      untitled.offerAll blocks = (untitled, [false, false]) := by
  intro titled untitled blocks
  have hfront : globalsTitle ∉ ["above".toList] := by decide +kernel
  have hnone : globalsTitle ∉ untitled.fragments := by decide +kernel
  exact ⟨hfront, hnone, (offerAll_blocks titled blocks).2.2 ["above".toList] ["below".toList, globalsTitle] rfl hfront,
    (offerAll_blocks untitled blocks).1 hnone⟩

end ScriptDigest.Synopsis
