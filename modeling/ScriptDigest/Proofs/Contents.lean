import ScriptDigest.Proofs.Text.Lowercase
import ScriptDigest.Proofs.Text.Printing

/-!
# Anchors and items

A name may hold any character, but an anchor holds only those that stay in one, and the hyphens that stand for spaces
(`mem_anchor`). Whatever has a meaning in a link, and every line end, is gone from it, and an anchor has itself as its anchor
(`anchor_stable`). An item of a table of contents shows a name twice, as it is and as an anchor. Since an anchor holds no number
sign, the last one in an item stands right in front of it, and the entry can be read back, whatever its name holds
(`ContentsEntry.item_readBack`). An item is a single line when the name and the target are.
-/

namespace ScriptDigest

/-! ## The characters of an anchor -/

/-- A character of an anchor is alphanumeric, a hyphen or an underscore. -/
theorem mem_anchor {name : Text} {c : Char} (h : c ∈ anchor name) : Unicode.isAlphanumeric c = true ∨ c = '-' ∨ c = '_' := by
  unfold anchor at h
  obtain ⟨d, hd, rfl⟩ := List.mem_map.mp h
  have hstays := (List.mem_filter.mp hd).2
  simp only [staysInAnchor, Bool.or_eq_true, beq_iff_eq] at hstays
  by_cases hspace : d = ' '
  · exact Or.inr (Or.inl (if_pos hspace))
  · rw [if_neg hspace]
    rcases hstays with ((halnum | hblank) | hhyphen) | hunderscore
    · exact Or.inl halnum
    · exact absurd hblank hspace
    · exact Or.inr (Or.inl hhyphen)
    · exact Or.inr (Or.inr hunderscore)

/-- A sign other than a hyphen or an underscore does not stand in an anchor. -/
theorem not_mem_anchor {c : Char} (h : ¬ (Unicode.isAlphanumeric c = true ∨ c = '-' ∨ c = '_')) (name : Text) :
    c ∉ anchor name := fun hc => h (mem_anchor hc)

theorem newline_not_mem_anchor (name : Text) : '\n' ∉ anchor name := not_mem_anchor (by decide +kernel) name

/-- What may stand in an anchor is no white space. -/
theorem isWhiteSpace_eq_false {c : Char} (h : Unicode.isAlphanumeric c = true ∨ c = '-' ∨ c = '_') :
    Unicode.isWhiteSpace c = false := by
  rcases h with halnum | rfl | rfl
  · rw [Bool.eq_false_iff]
    intro hwhite
    rw [Unicode.isAlphanumeric_eq_false hwhite] at halnum
    nomatch halnum
  · decide +kernel
  · decide +kernel

/-! ## The anchor of an anchor -/

/-- An anchor is in lower case. -/
theorem isLowered_of_mem_anchor {name : Text} {c : Char} (h : c ∈ anchor name) : Unicode.IsLowered c := by
  unfold anchor at h
  obtain ⟨d, hd, rfl⟩ := List.mem_map.mp h
  split
  · decide +kernel
  · exact Text.isLowered_of_mem_lowercase (List.mem_filter.mp hd).1

/-- A text in lower case of characters that may stand in an anchor is its own anchor. -/
theorem anchor_eq_self {t : Text} (hstays : ∀ c ∈ t, Unicode.isAlphanumeric c = true ∨ c = '-' ∨ c = '_')
    (hlowered : ∀ c ∈ t, Unicode.IsLowered c) : anchor t = t := by
  have hwhite : ∀ c ∈ t, Unicode.isWhiteSpace c = false := fun c hc => isWhiteSpace_eq_false (hstays c hc)
  have htrim : Text.trim t = t := Text.strip_eq_self hwhite
  have hfilter : t.filter staysInAnchor = t := by
    refine List.filter_eq_self.mpr fun c hc => ?_
    simp only [staysInAnchor, Bool.or_eq_true, beq_iff_eq]
    rcases hstays c hc with halnum | hhyphen | hunderscore
    · exact Or.inl (Or.inl (Or.inl halnum))
    · exact Or.inl (Or.inr hhyphen)
    · exact Or.inr hunderscore
  have hmap : t.map (fun c => if c = ' ' then '-' else c) = t := by
    refine (List.map_congr_left fun c hc => ?_).trans (List.map_id t)
    refine if_neg ?_
    rintro rfl
    exact absurd (hwhite ' ' hc) (by decide)
  rw [anchor, htrim, Text.lowercase_eq_self hlowered, hfilter, hmap]

/-- Anchors are clean and stable, in four parts.
1. A character of an anchor is alphanumeric, a hyphen or an underscore.
2. It is no white space.
3. The signs around the target of a link do not stand in an anchor.
4. An anchor is its own anchor. -/
theorem anchor_stable (name : Text) :
    (∀ c ∈ anchor name, Unicode.isAlphanumeric c = true ∨ c = '-' ∨ c = '_') ∧
      (∀ c ∈ anchor name, Unicode.isWhiteSpace c = false) ∧
      ('#' ∉ anchor name ∧ '(' ∉ anchor name ∧ ')' ∉ anchor name ∧ ']' ∉ anchor name) ∧
      anchor (anchor name) = anchor name := by
  refine ⟨fun c hc => mem_anchor hc, fun c hc => isWhiteSpace_eq_false (mem_anchor hc), ⟨?_, ?_, ?_, ?_⟩, ?_⟩
  · exact not_mem_anchor (by decide +kernel) name
  · exact not_mem_anchor (by decide +kernel) name
  · exact not_mem_anchor (by decide +kernel) name
  · exact not_mem_anchor (by decide +kernel) name
  · exact anchor_eq_self (fun c hc => mem_anchor hc) fun c hc => isLowered_of_mem_anchor hc

/-- A name with a dotted capital I, capital sigmas in three places, and white space other than the space. The final sigma of its
second word stands in the middle of the anchor and stays final. -/
theorem anchor_stable_sigma :
    let name := "\u00a0\u03a3\u0130 A\u03a3\u2003\u03a3(#1)] ".toList
    anchor name = "\u03c3i-a\u03c2\u03c31".toList ∧ '\u03c2' ∈ anchor name ∧
      (Unicode.isAlphanumeric '\u03c2' = true ∨ '\u03c2' = '-' ∨ '\u03c2' = '_') ∧
      Unicode.isWhiteSpace '\u03c2' = false ∧ anchor (anchor name) = anchor name := by
  intro name
  have hname : anchor name = "\u03c3i-a\u03c2\u03c31".toList := by decide +kernel
  have hsigma : '\u03c2' ∈ anchor name := by
    rw [hname]
    decide +kernel
  obtain ⟨hstays, hwhite, -, hagain⟩ := anchor_stable name
  exact ⟨hname, hsigma, hstays _ hsigma, hwhite _ hsigma, hagain⟩

namespace ContentsEntry

/-! ## Items -/

/-- An item is a single line when its name and its target are. -/
theorem newline_not_mem_item {e : ContentsEntry} {target : Text} (hname : '\n' ∉ e.name) (htarget : '\n' ∉ target) :
    '\n' ∉ e.item target := by
  have hnumber : '\n' ∉ Text.ofNat e.line := Text.not_mem_ofNat (by decide) e.line
  have hanchor : '\n' ∉ '#' :: anchor e.name := by
    rw [List.mem_cons, not_or]
    exact ⟨by decide, newline_not_mem_anchor e.name⟩
  unfold item
  simp only [List.mem_append, not_or]
  exact ⟨⟨⟨⟨⟨⟨⟨by decide, hnumber⟩, by decide⟩, hname⟩, by decide⟩, htarget⟩, hanchor⟩, by decide⟩

/-- The entry that an item into the document called `target` shows. Its number stands in front of the first blank behind the
bracket, and its name between the sign behind the number and the two brackets, the target and the last number sign. -/
def ofItem (target item : Text) : ContentsEntry :=
  let shown := Text.beforeLast (· == '#') (item.drop 3)
  let named := (Text.after (· == ' ') shown).drop 2
  ⟨Text.toNat (Text.before (· == ' ') shown), named.take (named.length - (target.length + 2))⟩

/-- An item, taken apart at the number sign in front of the anchor and at the blank behind the number. -/
theorem item_eq (e : ContentsEntry) (target : Text) :
    e.item target = "- [".toList ++ ((Text.ofNat e.line ++ ' ' :: ([':', ' '] ++ (e.name ++ ("](".toList ++ target)))) ++
      '#' :: (anchor e.name ++ [')'])) := by
  have hsign : " : ".toList = ' ' :: [':', ' '] := rfl
  unfold item
  rw [hsign]
  simp only [List.append_assoc, List.cons_append]

/-- An entry is read back from its item. -/
theorem ofItem_item (target : Text) (e : ContentsEntry) : ofItem target (e.item target) = e := by
  have hanchor : '#' ∉ anchor e.name ++ [')'] := by
    rw [List.mem_append, not_or]
    exact ⟨not_mem_anchor (by decide +kernel) e.name, by decide⟩
  have hdigits : ' ' ∉ Text.ofNat e.line := Text.not_mem_ofNat (by decide) e.line
  have hopening : "- [".toList.length = 3 := rfl
  have hsign : ([':', ' '] : Text).length = 2 := rfl
  have hshown : Text.beforeLast (· == '#') ((e.item target).drop 3) =
      Text.ofNat e.line ++ ' ' :: ([':', ' '] ++ (e.name ++ ("](".toList ++ target))) := by
    rw [item_eq, List.drop_left' hopening, Text.beforeLast_append_cons hanchor]
  have hnumber (rest : Text) : Text.before (· == ' ') (Text.ofNat e.line ++ ' ' :: rest) = Text.ofNat e.line := by
    rw [Text.before_append_of_not_mem hdigits, Text.before_cons_of_pos rfl, List.append_nil]
  have hname : (e.name ++ ("](".toList ++ target)).length - (target.length + 2) = e.name.length := by
    have hbrackets : "](".toList.length = 2 := rfl
    rw [List.length_append, List.length_append, hbrackets]
    omega
  rw [ofItem, hshown, hnumber, Text.toNat_ofNat, Text.after_append_cons hdigits, List.drop_left' hsign, hname,
    List.take_left' rfl]

/-- An item determines its entry, in two parts.
1. The number and the name are read back from the item, whatever the name and the target hold.
2. So no two entries have the same item into one document. -/
theorem item_readBack (target : Text) (e : ContentsEntry) :
    ofItem target (e.item target) = e ∧
      ∀ e' : ContentsEntry, e'.item target = e.item target ↔ e'.line = e.line ∧ e'.name = e.name := by
  refine ⟨ofItem_item target e, fun e' => ⟨fun h => ?_, fun ⟨hline, hname⟩ => ?_⟩⟩
  · have hread := ofItem_item target e'
    rw [h, ofItem_item] at hread
    rw [hread]
    exact ⟨rfl, rfl⟩
  · unfold item
    rw [hline, hname]

-- A name that holds the sign behind the number, the brackets, the target and a number sign.
example : ofItem "a.md".toList "- [12 : 3 : x](a.md#x](a.md#3--xamdx)".toList = ⟨12, "3 : x](a.md#x".toList⟩ := by
  decide +kernel

end ContentsEntry

end ScriptDigest
