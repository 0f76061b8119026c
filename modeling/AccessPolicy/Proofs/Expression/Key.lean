import AccessPolicy.Expression.Key
import AccessPolicy.Proofs.Text.Pieces
import AccessPolicy.Proofs.Text.Trim

/-!
# Keys and their texts

A text denotes a key if colons cut it into one or two pieces of more than white space
(`Key.read?_eq_some_iff`). So the parts of a key are words without colons (`Key.isWord_of_read?`),
and two such words are found again with a colon between them and any white space around each
(`Key.read?_spaced`). This makes the text of a key that was read another text of the same key
(`Key.read_canonical`).
-/

namespace AccessPolicy.Key

variable {text : String} {key : Key}

/-! ### Pieces -/

/-- The pieces of a text between its colons, without the white space around them. -/
def pieces (text : String) : List (List Char) :=
  (text.toList.splitOn ':').map Text.trim

theorem not_isBlank_colon : ¬Text.isBlank ':' := by decide

/-- White space around the whole text makes no difference to the parts of a key. -/
theorem read?_eq (text : String) :
    read? text = match pieces text with
      | [name] => ofParts? defaultSpace.toList name
      | [space, name] => ofParts? space name
      | _ => none := by
  rw [read?, Text.map_trim_splitOn_trim not_isBlank_colon]
  rfl

theorem ofParts?_eq_some_iff {space name : List Char} :
    ofParts? space name = some key ↔
      space ≠ [] ∧ name ≠ [] ∧ space = key.space.toList ∧ name = key.name.toList := by
  have hkey : (⟨String.ofList space, String.ofList name⟩ : Key) = key ↔
      space = key.space.toList ∧ name = key.name.toList := by
    rw [Key.mk.injEq, ← String.toList_inj, ← String.toList_inj, String.toList_ofList,
      String.toList_ofList]
  unfold ofParts?
  split
  next hempty => grind
  next hsome => grind

/-- A text denotes a key if it has one or two pieces and there is some text in each. -/
theorem read?_eq_some_iff :
    read? text = some key ↔ [] ∉ pieces text ∧
      (pieces text = [key.name.toList] ∧ key.space = defaultSpace ∨
        pieces text = [key.space.toList, key.name.toList]) := by
  rw [read?_eq]
  have hdefault : defaultSpace.toList ≠ [] := by decide
  have hspace : defaultSpace.toList = key.space.toList ↔ key.space = defaultSpace := by
    rw [String.toList_inj, eq_comm]
  split
  next name hpieces =>
    rw [ofParts?_eq_some_iff, hspace, hpieces]
    grind
  next space name hpieces =>
    rw [ofParts?_eq_some_iff, hpieces]
    grind
  next hone htwo => grind

/-- Some key is denoted exactly if there are one or two pieces with some text in each. -/
theorem exists_read?_iff :
    (∃ key, read? text = some key) ↔
      ((pieces text).length = 1 ∨ (pieces text).length = 2) ∧ [] ∉ pieces text := by
  simp only [read?_eq_some_iff]
  constructor
  · rintro ⟨key, hsome, ⟨hpieces, -⟩ | hpieces⟩
    · exact ⟨.inl (by rw [hpieces]; rfl), hsome⟩
    · exact ⟨.inr (by rw [hpieces]; rfl), hsome⟩
  · rintro ⟨hone | htwo, hsome⟩
    · obtain ⟨name, hname⟩ := List.length_eq_one_iff.1 hone
      exact ⟨⟨defaultSpace, String.ofList name⟩, hsome, .inl (by simp [hname])⟩
    · obtain ⟨space, name, hparts⟩ := List.length_eq_two.1 htwo
      exact ⟨⟨String.ofList space, String.ofList name⟩, hsome, .inr (by simp [hparts])⟩

/-! ### Words -/

/-- A piece with some text in it is a word without colons. -/
theorem isWord_of_mem_pieces {part : String} (hsome : [] ∉ pieces text)
    (hmem : part.toList ∈ pieces text) : Text.IsWord [':'] part := by
  obtain ⟨piece, hpiece, htrim⟩ := List.mem_map.1 hmem
  refine ⟨?_, ?_, List.forall_mem_singleton.2 fun hcolon => ?_⟩
  · rintro rfl
    exact hsome hmem
  · rw [Text.trimmed, ← htrim, Text.trim_trim, htrim, String.ofList_toList]
  · -- Trimming only takes characters away.
    rw [← htrim] at hcolon
    exact Text.not_mem_of_mem_splitOn hpiece ((Text.trim_sublist piece).mem hcolon)

/-- The parts of a key that was read are words without colons. -/
theorem isWord_of_read? (h : read? text = some key) :
    Text.IsWord [':'] key.space ∧ Text.IsWord [':'] key.name := by
  obtain ⟨hsome, ⟨hpieces, hspace⟩ | hpieces⟩ := read?_eq_some_iff.1 h
  · refine ⟨?_, isWord_of_mem_pieces hsome (by simp [hpieces])⟩
    rw [hspace]
    decide
  · exact ⟨isWord_of_mem_pieces hsome (by simp [hpieces]),
      isWord_of_mem_pieces hsome (by simp [hpieces])⟩

/-- Two words are found again around a colon, whatever white space stands around each of them. -/
theorem read?_spaced (hspace : Text.IsWord [':'] key.space) (hname : Text.IsWord [':'] key.name)
    {before front back after : String} (hbefore : Text.allBlank before = true)
    (hfront : Text.allBlank front = true) (hback : Text.allBlank back = true)
    (hafter : Text.allBlank after = true) :
    read? (before ++ key.space ++ front ++ ":" ++ (back ++ key.name ++ after)) = some key := by
  have hblank {w : String} (hw : Text.allBlank w = true) : ∀ c ∈ w.toList, Text.isBlank c = true :=
    List.all_eq_true.1 hw
  -- No colon is white space, so none stands around the words.
  have hfree {w w' part : String} (hw : Text.allBlank w = true) (hw' : Text.allBlank w' = true)
      (hpart : Text.IsWord [':'] part) : ':' ∉ (w ++ part ++ w').toList := by
    rw [String.toList_append, String.toList_append, List.mem_append, List.mem_append]
    rintro ((h | h) | h)
    · exact not_isBlank_colon (hblank hw _ h)
    · exact hpart.free _ List.mem_cons_self h
    · exact not_isBlank_colon (hblank hw' _ h)
  have htrim {w w' part : String} (hw : Text.allBlank w = true) (hw' : Text.allBlank w' = true)
      (hpart : Text.IsWord [':'] part) :
      Text.trim (w ++ part ++ w').toList = part.toList := by
    rw [String.toList_append, String.toList_append,
      Text.trim_of_blank_ends (hblank hw) (hblank hw'), hpart.trim_toList]
  have hpieces : pieces (before ++ key.space ++ front ++ ":" ++ (back ++ key.name ++ after)) =
      [key.space.toList, key.name.toList] := by
    have hcolon : (before ++ key.space ++ front ++ ":" ++ (back ++ key.name ++ after)).toList =
        (before ++ key.space ++ front).toList ++ ':' :: (back ++ key.name ++ after).toList := by
      simp
    rw [pieces, hcolon, List.splitOn_append_cons_self_of_not_mem (hfree hbefore hfront hspace),
      List.splitOn_eq_singleton (hfree hback hafter hname), List.map_cons, List.map_singleton,
      htrim hbefore hfront hspace, htrim hback hafter hname]
  have hne {part : String} (hpart : Text.IsWord [':'] part) : [] ≠ part.toList :=
    fun h => hpart.ne_empty (String.toList_eq_nil_iff.1 h.symm)
  refine read?_eq_some_iff.2 ⟨?_, .inr hpieces⟩
  rw [hpieces]
  simp [hne hspace, hne hname]

theorem read?_toText_of_isWord (hspace : Text.IsWord [':'] key.space)
    (hname : Text.IsWord [':'] key.name) : read? key.toText = some key := by
  have hempty : Text.allBlank "" = true := rfl
  simpa [toText] using read?_spaced hspace hname hempty hempty hempty hempty

/-- A text denotes a key exactly if it has one or two pieces between its colons and each of them is
more than white space. One piece is a name in the namespace `field`, two pieces are the namespace
and the name. The text of the key denotes the same key, also with white space at its ends and around
the colon. -/
theorem read_canonical (text : String) :
    ((∃ key, read text = .ok key) ↔
      ((pieces text).length = 1 ∨ (pieces text).length = 2) ∧ [] ∉ pieces text) ∧
    ∀ key, read text = .ok key →
      (pieces text = [key.name.toList] ∧ key.space = "field" ∨
        pieces text = [key.space.toList, key.name.toList]) ∧
      read key.toText = .ok key ∧
      ∀ before front back after, Text.allBlank before = true → Text.allBlank front = true →
        Text.allBlank back = true → Text.allBlank after = true →
          read (before ++ key.space ++ front ++ ":" ++ (back ++ key.name ++ after)) = .ok key := by
  simp only [read_eq_ok_iff]
  refine ⟨exists_read?_iff, fun key hkey => ?_⟩
  obtain ⟨hspace, hname⟩ := isWord_of_read? hkey
  exact ⟨(read?_eq_some_iff.1 hkey).2, read?_toText_of_isWord hspace hname,
    fun before front back after => read?_spaced hspace hname⟩

/-- White space of several kinds around both parts, and within the name. -/
theorem read_canonical_spaces :
    let key : Key := ⟨"claims", "org unit"⟩
    read "\t claims\u00a0:\u3000org unit\n" = .ok key ∧
      pieces "\t claims\u00a0:\u3000org unit\n" = ["claims".toList, "org unit".toList] ∧
      read "claims:org unit" = .ok key ∧
      (∀ blank ∈ ["", "\u2003", " "], Text.allBlank blank = true) ∧
      read "\u2003claims :org unit\u2003" = .ok key := by
  intro key
  have hread : read "\t claims\u00a0:\u3000org unit\n" = .ok key :=
    read_eq_ok_iff.2 (by decide +kernel)
  have hblank : ∀ blank ∈ ["", "\u2003", " "], Text.allBlank blank = true := by decide +kernel
  obtain ⟨hpieces, htext, hspaced⟩ := (read_canonical _).2 key hread
  refine ⟨hread, hpieces.resolve_left fun h => absurd h.2 (by decide), htext, hblank, ?_⟩
  exact hspaced "\u2003" " " "" "\u2003" (hblank _ (by simp)) (hblank _ (by simp))
    (hblank _ (by simp)) (hblank _ (by simp))

end AccessPolicy.Key
