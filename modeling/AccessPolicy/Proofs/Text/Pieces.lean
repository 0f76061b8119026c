import AccessPolicy.Text.Pieces

/-!
# Cutting a text and replacing parts of it

What a cut finds in a text it finds in every longer one, and a separator of two characters that is
found in neither of two texts nor across their border is not found in both together.

Splitting finds the pieces between which a separator was put, as long as they have no character of
it (`Text.split_intercalate`).

Replacing goes through a text from its start: it puts the new text where the old one stands and
keeps every other character. In a text that is written character by character, where a mark stands
for itself only behind a backslash, it replaces just what was written for that mark
(`Text.replaceAll_flatMap`).
-/

namespace AccessPolicy.Text

/-! ### Cutting -/

section Cut

variable {sep cs more before after : List Char}

/-- What a text begins with, a longer text begins with too. -/
theorem dropFront?_append {front rest : List Char} (h : dropFront? front cs = some rest) :
    dropFront? front (cs ++ more) = some (rest ++ more) := by
  fun_induction dropFront? front cs with
  | case1 cs =>
    rw [Option.some.inj h]
    rfl
  | case2 => cases h
  | case3 f front cs ih => simpa [dropFront?] using ih h
  | case4 => cases h

/-- What a text that is long enough does not begin with, a longer one does not begin with. -/
theorem dropFront?_append_of_none {front : List Char} (h : dropFront? front cs = none)
    (hlength : front.length ≤ cs.length) : dropFront? front (cs ++ more) = none := by
  fun_induction dropFront? front cs with
  | case1 => cases h
  | case2 => simp at hlength
  | case3 f front cs ih =>
    simpa [dropFront?] using ih h (Nat.le_of_succ_le_succ hlength)
  | case4 f front c cs hne => simp [dropFront?, hne]

/-- The parts of a cut with the separator between them are the text. -/
theorem append_of_cutAt? (h : cutAt? sep cs = some (before, after)) :
    before ++ sep ++ after = cs := by
  induction cs generalizing before with
  | nil =>
    rw [cutAt?] at h
    split at h
    next hsep => simpa [List.isEmpty_iff.1 hsep] using h.symm
    next => cases h
  | cons c cs ih =>
    rw [cutAt?] at h
    split at h
    next rest found =>
      obtain ⟨rfl, rfl⟩ := Prod.mk.inj (Option.some.inj h)
      exact append_of_dropFront? found
    next =>
      obtain ⟨⟨front, back⟩, found, hcut⟩ := Option.map_eq_some_iff.1 h
      obtain ⟨rfl, rfl⟩ := Prod.mk.inj hcut
      exact congrArg (c :: ·) (ih found)

/-- A text is cut at the same place if more follows. -/
theorem cutAt?_append (h : cutAt? sep cs = some (before, after)) :
    cutAt? sep (cs ++ more) = some (before, after ++ more) := by
  induction cs generalizing before with
  | nil =>
    rw [cutAt?] at h
    split at h
    next hsep =>
      obtain ⟨rfl, rfl⟩ := Prod.mk.inj (Option.some.inj h)
      obtain rfl := List.isEmpty_iff.1 hsep
      cases more <;> rfl
    next => cases h
  | cons c cs ih =>
    rw [cutAt?] at h
    rw [List.cons_append, cutAt?]
    split at h
    next rest found =>
      obtain ⟨rfl, rfl⟩ := Prod.mk.inj (Option.some.inj h)
      rw [← List.cons_append, dropFront?_append found]
    next hnot =>
      obtain ⟨⟨front, back⟩, found, hcut⟩ := Option.map_eq_some_iff.1 h
      obtain ⟨rfl, rfl⟩ := Prod.mk.inj hcut
      -- The separator stands further back, so it is too short to reach beyond the text here.
      have hlength : sep.length ≤ (c :: cs).length := by
        have := length_of_cutAt? found
        simp only [List.length_cons]
        omega
      rw [← List.cons_append, dropFront?_append_of_none hnot hlength, ih found]
      rfl

/-- A separator of two characters is found behind a text without it, unless its characters stand
on both sides of the border. -/
theorem cutAt?_append_of_none {a b : Char} (h : cutAt? [a, b] cs = none)
    (hborder : ¬(cs.getLast? = some a ∧ more.head? = some b)) :
    cutAt? [a, b] (cs ++ more) = (cutAt? [a, b] more).map fun cut => (cs ++ cut.1, cut.2) := by
  induction cs with
  | nil => simp
  | cons c cs ih =>
    rw [cutAt?] at h
    split at h
    next => cases h
    next hnot =>
      have hstart : dropFront? [a, b] (c :: (cs ++ more)) = none := by
        cases cs with
        | nil =>
          cases more with
          | nil => exact hnot
          | cons d more =>
            have hcd : a = c → b ≠ d := fun hc hd => hborder (by simp [hc, hd])
            simpa [dropFront?] using hcd
        | cons d cs => exact dropFront?_append_of_none hnot (by simp)
      have hborder' : ¬(cs.getLast? = some a ∧ more.head? = some b) := by
        cases cs with
        | nil => simp
        | cons d cs => simpa using hborder
      rw [List.cons_append, cutAt?, hstart, ih (Option.map_eq_none_iff.1 h) hborder']
      simp [Function.comp_def]

theorem dropFront?_append_self (front rest : List Char) :
    dropFront? front (front ++ rest) = some rest := by
  induction front with
  | nil => rfl
  | cons f front ih => simpa [dropFront?] using ih

/-- A text is cut where a separator stands, or further in front. -/
theorem exists_cutAt?_append (sep front more : List Char) :
    ∃ before after, cutAt? sep (front ++ sep ++ more) = some (before, after) ∧
      before.length ≤ front.length := by
  induction front with
  | nil =>
    have hfront := dropFront?_append_self sep more
    rw [List.nil_append]
    cases hcs : sep ++ more with
    | nil => exact ⟨[], [], by simp [cutAt?, (List.append_eq_nil_iff.1 hcs).1], Nat.le_refl 0⟩
    | cons c cs =>
      rw [hcs] at hfront
      exact ⟨[], more, by rw [cutAt?, hfront], Nat.le_refl 0⟩
  | cons c front ih =>
    obtain ⟨before, after, hcut, hlength⟩ := ih
    rw [List.cons_append, List.cons_append, cutAt?]
    split
    next rest found => exact ⟨[], rest, rfl, Nat.zero_le _⟩
    next => exact ⟨c :: before, after, by rw [hcut]; rfl, Nat.succ_le_succ hlength⟩

/-- No separator stands in front of the first one. -/
theorem not_infix_of_cutAt? (hsep : sep ≠ []) (h : cutAt? sep cs = some (before, after)) :
    ¬sep <:+: before := by
  rintro ⟨front, more, hbefore⟩
  have hcs : cs = front ++ sep ++ (more ++ sep ++ after) := by
    rw [← append_of_cutAt? h, ← hbefore]
    simp only [List.append_assoc]
  obtain ⟨first, rest, hcut, hlength⟩ := exists_cutAt?_append sep front (more ++ sep ++ after)
  rw [← hcs, h] at hcut
  obtain ⟨rfl, rfl⟩ := Prod.mk.inj (Option.some.inj hcut)
  have hpos := List.length_pos_iff.2 hsep
  have hsum := congrArg List.length hbefore
  simp only [List.length_append] at hsum
  omega

theorem cutAt?_eq_none_iff : cutAt? sep cs = none ↔ ¬sep <:+: cs := by
  constructor
  · rintro h ⟨front, more, hcs⟩
    obtain ⟨first, rest, hcut, -⟩ := exists_cutAt?_append sep front more
    rw [hcs, h] at hcut
    cases hcut
  · intro h
    cases hcut : cutAt? sep cs with
    | none => rfl
    | some cut => exact absurd ⟨cut.1, cut.2, append_of_cutAt? hcut⟩ h
/-- Where a text cannot be cut at a character, the character is not in it. -/
theorem not_mem_of_cutAt?_singleton {a : Char} (h : cutAt? [a] cs = none) : a ∉ cs := by
  induction cs with
  | nil => exact List.not_mem_nil
  | cons c cs ih =>
    rw [cutAt?] at h
    split at h
    next => cases h
    next hnot =>
      have hc : a ≠ c := by
        rintro rfl
        simp [dropFront?] at hnot
      simpa [hc] using ih (Option.map_eq_none_iff.1 h)

/-- A text is cut at the first place where a character stands. -/
theorem cutAt?_singleton_append {a : Char} (h : a ∉ cs) (more : List Char) :
    cutAt? [a] (cs ++ a :: more) = some (cs, more) := by
  induction cs with
  | nil => simp [cutAt?, dropFront?]
  | cons c cs ih =>
    obtain ⟨hc, hcs⟩ := not_or.1 (mt List.mem_cons.2 h)
    simp [cutAt?, dropFront?, hc, ih hcs]

theorem cutAt?_singleton_eq_some_iff {a : Char} :
    cutAt? [a] cs = some (before, after) ↔ cs = before ++ a :: after ∧ a ∉ before := by
  constructor
  · intro h
    have hcs : before ++ a :: after = cs := by simpa using append_of_cutAt? h
    refine ⟨hcs.symm, fun hmem => ?_⟩
    -- The cut would be at the first of the characters, which is nearer to the start.
    obtain ⟨front, back, hbefore, hfront⟩ := List.eq_append_cons_of_mem hmem
    have hcut := cutAt?_singleton_append hfront (back ++ a :: after)
    have hlonger : front ++ a :: (back ++ a :: after) = cs := by simp [← hcs, hbefore]
    rw [hlonger, h] at hcut
    obtain ⟨hsame, -⟩ := Prod.mk.inj (Option.some.inj hcut)
    rw [hsame] at hmem
    exact hfront hmem
  · rintro ⟨rfl, h⟩
    exact cutAt?_singleton_append h after

/-- A character that is neither in a separator nor in any piece is not in what they make up. -/
theorem not_mem_intercalate {a : Char} {pieces : List (List Char)} (hsep : a ∉ sep)
    (hpieces : ∀ piece ∈ pieces, a ∉ piece) : a ∉ sep.intercalate pieces := by
  induction pieces with
  | nil => simp
  | cons piece pieces ih =>
    obtain ⟨hpiece, hrest⟩ := List.forall_mem_cons.1 hpieces
    cases pieces with
    | nil => simpa using hpiece
    | cons next pieces =>
      rw [List.intercalate_cons_cons]
      simp only [List.mem_append, not_or]
      exact ⟨⟨hpiece, hsep⟩, ih hrest⟩

end Cut

/-! ### Splitting -/

section Split

variable {s : Char} {sep piece : List Char}

/-- No piece between separators of a single character has the separator in it. -/
theorem not_mem_of_mem_splitOn {cs : List Char} (h : piece ∈ cs.splitOn s) : s ∉ piece := by
  induction cs generalizing piece with
  | nil =>
    rw [List.splitOn_nil, List.mem_singleton] at h
    simp [h]
  | cons d cs ih =>
    rw [List.splitOn_cons_eq_if_modifyHead] at h
    split at h
    next =>
      rcases List.mem_cons.1 h with rfl | hrest
      · exact List.not_mem_nil
      · exact ih hrest
    next hd =>
      cases hpieces : cs.splitOn s with
      | nil => exact absurd hpieces (List.splitOn_ne_nil s cs)
      | cons first rest =>
        rw [hpieces, List.modifyHead_cons, List.mem_cons] at h
        rw [hpieces] at ih
        rcases h with rfl | hrest
        · have hne : s ≠ d := fun hsd => hd (beq_iff_eq.2 hsd.symm)
          exact List.not_mem_cons_of_ne_of_not_mem hne (ih List.mem_cons_self)
        · exact ih (List.mem_cons_of_mem first hrest)

/-- A text without the first character of a separator does not begin with the separator. -/
theorem dropFront?_of_ne {c : Char} (h : s ≠ c) (cs : List Char) :
    dropFront? (s :: sep) (c :: cs) = none := by
  rw [dropFront?, if_neg h]

/-- Where no separator can begin, a text is one piece. -/
theorem splitOnText_of_not_mem (h : s ∉ piece) : splitOnText s sep piece = [piece] := by
  induction piece with
  | nil => rw [splitOnText]
  | cons c piece ih =>
    obtain ⟨hc, hpiece⟩ := not_or.1 (mt List.mem_cons.2 h)
    rw [splitOnText]
    split
    next after found =>
      rw [dropFront?_of_ne hc] at found
      cases found
    next => rw [ih hpiece, List.modifyHead_cons]

/-- The first separator ends a piece in which no separator can begin. The separator may overlap
itself: it is found where its first character stands for the first time. -/
theorem splitOnText_append (h : s ∉ piece) (rest : List Char) :
    splitOnText s sep (piece ++ (s :: sep) ++ rest) = piece :: splitOnText s sep rest := by
  induction piece with
  | nil =>
    -- The separator stands at the front, so the piece ends here.
    have hfound := dropFront?_append_self (s :: sep) rest
    rw [List.nil_append, List.cons_append, splitOnText]
    rw [List.cons_append] at hfound
    split
    next after found => rw [Option.some.inj (found.symm.trans hfound)]
    next hnot => cases hnot.symm.trans hfound
  | cons c piece ih =>
    obtain ⟨hc, hpiece⟩ := not_or.1 (mt List.mem_cons.2 h)
    rw [List.cons_append, List.cons_append, splitOnText]
    split
    next after found =>
      rw [dropFront?_of_ne hc] at found
      cases found
    next => rw [ih hpiece, List.modifyHead_cons]

theorem splitOnText_intercalate {pieces : List (List Char)} (hsome : pieces ≠ [])
    (h : ∀ piece ∈ pieces, s ∉ piece) :
    splitOnText s sep ((s :: sep).intercalate pieces) = pieces := by
  induction pieces with
  | nil => exact absurd rfl hsome
  | cons piece pieces ih =>
    obtain ⟨hpiece, hpieces⟩ := List.forall_mem_cons.1 h
    cases pieces with
    | nil => rw [List.intercalate_singleton, splitOnText_of_not_mem hpiece]
    | cons next pieces =>
      rw [List.intercalate_cons_cons, splitOnText_append hpiece, ih (List.cons_ne_nil _ _) hpieces]

/-- Pieces that have no character in common with a separator are found again between it. -/
theorem split_intercalate {pieces : List (List Char)} (hsep : sep ≠ []) (hsome : pieces ≠ [])
    (h : ∀ piece ∈ pieces, ∀ c ∈ piece, c ∉ sep) : split sep (sep.intercalate pieces) = pieces := by
  cases sep with
  | nil => exact absurd rfl hsep
  | cons s sep =>
    refine splitOnText_intercalate hsome fun piece hpiece hs => ?_
    exact h piece hpiece s hs List.mem_cons_self

end Split

/-! ### Replacing -/

variable {s : Char} {old new : List Char}

@[simp]
theorem replaceAll_nil : replaceAll (s :: old) new [] = [] := by
  rw [replaceAll, split, splitOnText]
  rfl

/-- Where the old text stands, the new one takes its place. -/
theorem replaceAll_of_found {cs rest : List Char} (h : dropFront? (s :: old) cs = some rest) :
    replaceAll (s :: old) new cs = new ++ replaceAll (s :: old) new rest := by
  cases cs with
  | nil => cases h
  | cons c cs =>
    rw [replaceAll, split, splitOnText]
    split
    next after hafter =>
      rw [hafter] at h
      rw [Option.some.inj h, List.intercalate_cons_of_ne_nil (splitOnText_ne_nil s old rest)]
      rfl
    next hafter => rw [hafter] at h; cases h

/-- Where the old text does not stand, the first character is kept. -/
theorem replaceAll_of_not_found {c : Char} {cs : List Char}
    (h : dropFront? (s :: old) (c :: cs) = none) :
    replaceAll (s :: old) new (c :: cs) = c :: replaceAll (s :: old) new cs := by
  rw [replaceAll, split, splitOnText]
  split
  next after hafter => rw [hafter] at h; cases h
  next =>
    rw [replaceAll, split]
    cases hpieces : splitOnText s old cs with
    | nil => exact absurd hpieces (splitOnText_ne_nil s old cs)
    | cons piece pieces => exact List.intercalate_cons_cons_left

/-- Replacing a single character replaces it wherever it stands. -/
theorem replaceAll_singleton (cs : List Char) :
    replaceAll [s] new cs = cs.flatMap fun c => if c = s then new else [c] := by
  induction cs with
  | nil => simp
  | cons c cs ih =>
    by_cases hc : c = s
    · subst hc
      have hfound : dropFront? [c] (c :: cs) = some cs := by simp [dropFront?]
      rw [replaceAll_of_found hfound, ih]
      simp
    · have hnot : dropFront? [s] (c :: cs) = none := by simp [dropFront?, Ne.symm hc]
      rw [replaceAll_of_not_found hnot, ih]
      simp [hc]

/-! ### Marks behind a backslash -/

section Escaped

variable {mark : Char}

/-- A part without the mark is kept, unless it ends in a backslash and the mark follows it. -/
theorem replaceAll_append {part rest : List Char} (hpart : mark ∉ part)
    (hrest : rest.head? = some mark → part.getLast? ≠ some '\\') :
    replaceAll ['\\', mark] new (part ++ rest) = part ++ replaceAll ['\\', mark] new rest := by
  induction part with
  | nil => rfl
  | cons c part ih =>
    have htail : mark ∉ part := fun h => hpart (List.mem_cons_of_mem c h)
    have hnot : dropFront? ['\\', mark] (c :: (part ++ rest)) = none := by
      cases part with
      | nil =>
        cases rest with
        | nil => simp [dropFront?]
        | cons d rest =>
          have hcd : '\\' = c → mark ≠ d := fun hc hd => hrest (by simp [hd]) (by rw [hc]; rfl)
          simpa [dropFront?] using hcd
      | cons d part =>
        -- Even behind a backslash, what comes next is not the mark.
        have hd : mark ≠ d := fun h => htail (by simp [h])
        simp [dropFront?, hd]
    have hrest' : rest.head? = some mark → part.getLast? ≠ some '\\' := by
      intro hhead
      cases part with
      | nil => simp
      | cons d part => simpa using hrest hhead
    rw [List.cons_append, replaceAll_of_not_found hnot, ih htail hrest', List.cons_append]

variable {write : Char → List Char} (hmark : write mark = ['\\', mark])
  (hother : ∀ c, c ≠ mark → mark ∉ write c)

include hmark hother

/-- A text that is written character by character does not begin with the mark. -/
theorem head?_flatMap_ne (hbackslash : '\\' ≠ mark) (cs : List Char) :
    (cs.flatMap write).head? ≠ some mark := by
  induction cs with
  | nil => simp
  | cons c cs ih =>
    rw [List.flatMap_cons, List.head?_append]
    by_cases hc : c = mark
    · rw [hc, hmark]
      simpa using hbackslash
    · cases hwrite : write c with
      | nil => exact ih
      | cons d ds =>
        have hd := hother c hc
        rw [hwrite] at hd
        simpa [eq_comm] using fun h : mark = d => hd (by simp [h])

/-- Replacing the escaped mark replaces what was written for the mark, and nothing else, also in
front of a mark that stands for itself, as long as no backslash was written last. -/
theorem replaceAll_flatMap_append (hbackslash : '\\' ≠ mark) (cs : List Char) {rest : List Char}
    (hrest : rest.head? = some mark → (cs.flatMap write).getLast? ≠ some '\\') :
    replaceAll ['\\', mark] new (cs.flatMap write ++ rest) =
      (cs.flatMap fun c => if c = mark then new else write c) ++
        replaceAll ['\\', mark] new rest := by
  induction cs with
  | nil => rfl
  | cons c cs ih =>
    have hrest' : rest.head? = some mark → (cs.flatMap write).getLast? ≠ some '\\' := by
      intro hhead hlast
      exact hrest hhead (by rw [List.flatMap_cons, List.getLast?_append, hlast, Option.some_or])
    rw [List.flatMap_cons, List.flatMap_cons, List.append_assoc, List.append_assoc, ← ih hrest']
    -- Only what was written for the mark is found; every other part is passed over.
    by_cases hc : c = mark
    · have hfound : dropFront? ['\\', mark] (write c ++ (cs.flatMap write ++ rest)) =
          some (cs.flatMap write ++ rest) := by
        rw [hc, hmark]
        simp [dropFront?]
      rw [replaceAll_of_found hfound, if_pos hc]
    · have hnext : (cs.flatMap write ++ rest).head? = some mark →
          (write c).getLast? ≠ some '\\' := by
        intro hhead
        cases hcs : cs.flatMap write with
        | nil =>
          rw [hcs, List.nil_append] at hhead
          simpa [hcs] using hrest hhead
        | cons d ds =>
          have hd := head?_flatMap_ne hmark hother hbackslash cs
          rw [hcs] at hd hhead
          exact absurd hhead hd
      rw [replaceAll_append (hother c hc) hnext, if_neg hc]

/-- In a text that is written character by character, replacing the escaped mark replaces just
what was written for the mark. -/
theorem replaceAll_flatMap (hbackslash : '\\' ≠ mark) (cs : List Char) :
    replaceAll ['\\', mark] new (cs.flatMap write) =
      cs.flatMap fun c => if c = mark then new else write c := by
  have hnil : ([] : List Char).head? = some mark → (cs.flatMap write).getLast? ≠ some '\\' := by
    simp
  simpa using replaceAll_flatMap_append hmark hother hbackslash cs hnil

end Escaped

end AccessPolicy.Text
