import ScriptDigest.Proofs.Contents
import ScriptDigest.Proofs.Synopsis.GlobalsBlock
import ScriptDigest.Proofs.Text.Joining

/-!
# The lines of the section on an entry point

The section is joined of lines, and two of these are joined themselves: the items of the table of contents, and the fragments
of the synopsis. Split at line feeds, it falls into the lines of all of them in turn (`Text.splitOn_joinLines`). What is
joined of single lines fills one line for each, and one empty line when there is none (`Text.filledLines`).

Whatever the section shows of a script is a single line: its fragments, the names of its sections, and the values of its
callbacks. Only the block of the globals is more than that. So without a heading for the globals every line of the section is
at its place, as `Script.splitOn_entrySection` lists them.
-/

namespace ScriptDigest

/-! ## Single lines -/

/-- No name of a section in the table of contents of a text holds a line feed. -/
theorem Synopsis.newline_not_mem_name {text : Text} {e : ContentsEntry} (h : e ∈ (ofText text).contents) : '\n' ∉ e.name := by
  obtain ⟨i, -, hi⟩ := (exists_mem_contents_iff text e.name).mp ⟨e, h, rfl⟩
  have hfragment := newline_not_mem_fragmentAt? (fragmentAt?_of_titleAt? hi)
  exact fun hm => hfragment (List.mem_append_right _ hm)

/-! ## The section -/

namespace Script

/-- Without a heading for the globals the synopsis is that of the text alone. -/
theorem synopsis_of_not_mem {s : Script} (h : Synopsis.globalsTitle ∉ (Synopsis.ofText s.text).fragments) :
    s.synopsis = Synopsis.ofText s.text := by
  rw [synopsis, Synopsis.insertGlobals?, Synopsis.insertBehind?_of_not_mem h]
  rfl

/-- The head of the section consists of single lines when the name and the values of the callbacks are. -/
theorem newline_not_mem_sectionHead {s : Script} (hname : '\n' ∉ s.name) (hvalue : ∀ c, '\n' ∉ s.synopsis.lineOf c) :
    ∀ l ∈ s.sectionHead, '\n' ∉ l := by
  have hnumber : '\n' ∉ Text.ofNat (codeLineCount s.text) := Text.not_mem_ofNat (by decide) _
  have hindent (t : Text) (ht : '\n' ∉ t) : '\n' ∉ indent 4 t := by
    unfold indent
    exact List.not_mem_append (by decide) ht
  intro l hl
  simp only [sectionHead, List.mem_cons, List.not_mem_nil, or_false] at hl
  rcases hl with rfl | rfl | rfl | rfl | rfl | rfl | rfl | rfl | rfl | rfl | rfl | rfl
  all_goals simp [hname, hvalue, hnumber, hindent]

/-- The section on an entry point, split into lines. -/
theorem splitOn_entrySection_eq (s : Script) (target : Text) : (s.entrySection target).splitOn '\n' =
    s.sectionHead.flatMap (List.splitOn '\n') ++
      ((Text.joinLines (s.synopsis.contents.map (·.item target))).splitOn '\n' ++ [[]] ++
        (Text.joinLines s.synopsis.fragments).splitOn '\n' ++ [[]]) := by
  rw [entrySection, Text.splitOn_joinLines (by simp [sectionHead]), List.flatMap_append]
  simp

/-- The lines of the section on an entry point whose name and target are single lines and whose synopsis has no heading for
the globals: twelve lines at fixed places, a line for each item of the table of contents, an empty line, a line for each
fragment, and nothing behind the last line feed. And for every text the fragments, the names of sections and the values of
callbacks hold no line feed. -/
theorem splitOn_entrySection (s : Script) (target : Text) :
    ('\n' ∉ s.name → '\n' ∉ target → Synopsis.globalsTitle ∉ (Synopsis.ofText s.text).fragments →
      (s.entrySection target).splitOn '\n' =
        ["## Summary".toList,
          [],
          "    ".toList ++ s.name ++ ": ".toList ++ Text.ofNat (codeLineCount s.text) ++ " lines".toList,
          [],
          "Read ".toList ++ s.name ++ " by starting at the `_ready()` callback on line".toList,
          (Synopsis.ofText s.text).lineOf .ready ++ ['.'],
          [],
          "All drawing happens in the `_process()` callback on line".toList,
          (Synopsis.ofText s.text).lineOf .process ++ ['.'],
          [],
          "## Table of Contents".toList,
          []] ++
        Text.filledLines ((Synopsis.ofText s.text).contents.map (·.item target)) ++ [[]] ++
        Text.filledLines (Synopsis.ofText s.text).fragments ++ [[]]) ∧
      (∀ f ∈ (Synopsis.ofText s.text).fragments, '\n' ∉ f) ∧
      (∀ e ∈ (Synopsis.ofText s.text).contents, '\n' ∉ e.name) ∧
      ∀ c, '\n' ∉ (Synopsis.ofText s.text).lineOf c := by
  have hfragments : ∀ f ∈ (Synopsis.ofText s.text).fragments, '\n' ∉ f := fun _ => Synopsis.newline_not_mem_fragments
  have hnames : ∀ e ∈ (Synopsis.ofText s.text).contents, '\n' ∉ e.name := fun _ => Synopsis.newline_not_mem_name
  have hvalues : ∀ c, '\n' ∉ (Synopsis.ofText s.text).lineOf c := fun c => newline_not_mem_lineOf c s.text
  refine ⟨fun hname htarget hglobals => ?_, hfragments, hnames, hvalues⟩
  have hsynopsis := synopsis_of_not_mem hglobals
  have hitems : ∀ t ∈ (Synopsis.ofText s.text).contents.map (·.item target), '\n' ∉ t := by
    intro t ht
    obtain ⟨e, he, rfl⟩ := List.mem_map.mp ht
    exact ContentsEntry.newline_not_mem_item (hnames e he) htarget
  have hhead := newline_not_mem_sectionHead hname (by rwa [hsynopsis])
  rw [splitOn_entrySection_eq, Text.flatMap_splitOn hhead, hsynopsis, Text.splitOn_joinLines_of_forall hitems,
    Text.splitOn_joinLines_of_forall hfragments, sectionHead, hsynopsis]
  simp [indent]

/-- The lines of a section without items, for a text in which a carriage return and a null character stand within a line. -/
theorem splitOn_entrySection_returns :
    let s : Script := ⟨"Main.gd".toList, "## a\r\u0000\nfunc f(x,\r\r\n\ty):\n".toList⟩
    ('\n' ∉ s.name ∧ '\n' ∉ "Main.md".toList ∧ Synopsis.globalsTitle ∉ (Synopsis.ofText s.text).fragments) ∧
      (s.entrySection "Main.md".toList).splitOn '\n' =
        ["## Summary".toList, [], "    Main.gd: 2 lines".toList, [],
          "Read Main.gd by starting at the `_ready()` callback on line".toList, "0.".toList, [],
          "All drawing happens in the `_process()` callback on line".toList, "0.".toList, [],
          "## Table of Contents".toList, [], [], [],
          "a\r\u0000".toList, "    2 : func f(x,".toList, "        y):".toList, []] := by
  intro s
  have hname : '\n' ∉ s.name := by decide +kernel
  have htarget : '\n' ∉ "Main.md".toList := by decide +kernel
  have hglobals : Synopsis.globalsTitle ∉ (Synopsis.ofText s.text).fragments := by decide +kernel
  obtain ⟨hlines, -⟩ := splitOn_entrySection s "Main.md".toList
  refine ⟨⟨hname, htarget, hglobals⟩, ?_⟩
  rw [hlines hname htarget hglobals]
  decide +kernel

end Script

end ScriptDigest
