import AccessPolicy.Proofs.Number.Whole
import AccessPolicy.Proofs.Standard.TextPipes
import AccessPolicy.Proofs.Text.Trim

/-!
# Parts of lists and texts

The windows that the pipes `slice`, `take` and `takeLast` compute are those of exact arithmetic:
what is subtracted is never more than there is, and no sum is larger than the length
(`sliceWindow_eq`, `takeWindow_eq`). So the pipes select the items between two positions
(`itemsBetween`), the first or the last items. A window does not look at the items, so characters of
a text are selected just as items of a list (`value_onWindow_string`). `windows_exact` puts this
together.
-/

namespace AccessPolicy

/-- No white space stands around the digits of a number. -/
theorem trimmed_integerText (n : Nat) : Text.trimmed (integerText n) = integerText n := by
  have htext : (integerText n).toList = padded 1 n := by simp [integerText]
  have hblank (c : Char) (hc : c ∈ padded 1 n) : ¬Text.isBlank c :=
    Text.not_isBlank_of_isDigit (isDigit_of_mem_padded hc)
  have htrim : Text.trim (padded 1 n) = padded 1 n :=
    Text.trim_eq_self_iff.2 ⟨fun c hc => hblank c (List.mem_of_head? hc),
      fun c hc => hblank c (List.mem_of_getLast? hc)⟩
  rw [Text.trimmed, htext, htrim, ← htext, String.ofList_toList]

namespace Standard

/-! ### Windows -/

section Window

variable {α β : Type} {m n first last count length : Nat}

theorem addCounts_of_lt (h : m + n < Nat.pow 2 64) : addCounts m n = .ok (m + n) :=
  if_pos h

theorem subtractCounts_of_le (h : n ≤ m) : subtractCounts m n = .ok (m - n) :=
  if_pos h

/-- No more items are taken than there are, so the window of the first or the last items always
exists. -/
theorem takeWindow_eq (fromEnd : Bool) (count length : Nat) :
    takeWindow fromEnd count length = .ok (some
      (if fromEnd then .ofRange (length - min count length) length
        else .ofRange 0 (min count length))) := by
  cases fromEnd with
  | false => rfl
  | true =>
    rw [takeWindow, if_pos rfl, subtractCounts_of_le (Nat.min_le_right count length)]
    rfl

/-- A position that lies in the list and not behind the last one bounds all differences, and the
length bounds the sum, whatever the positions are. -/
theorem sliceWindow_eq (hlength : length < Nat.pow 2 64) (first last : Nat) :
    sliceWindow first last length = .ok (if last < first ∨ length ≤ first then none
      else some ⟨first, min last (length - 1) - first + 1⟩) := by
  by_cases hnone : last < first ∨ length ≤ first
  · rw [sliceWindow, if_pos hnone, if_pos hnone]
    rfl
  · obtain ⟨hle, hlt⟩ := not_or.1 hnone
    have hfinal : first ≤ min last (length - 1) := by omega
    -- The distance is less than the length, however large the last position is.
    have hsum : min last (length - 1) - first + 1 < Nat.pow 2 64 := by omega
    have hone : subtractCounts length 1 = .ok (length - 1) := subtractCounts_of_le (by omega)
    have hdistance : subtractCounts (min last (length - 1)) first =
        .ok (min last (length - 1) - first) := subtractCounts_of_le hfinal
    rw [sliceWindow, if_neg hnone, if_neg hnone, hone]
    simp only [bind, Except.bind, hdistance, addCounts_of_lt hsum]
    rfl

/-! ### Items -/

/-- The items at the positions from one to another, both included, in order. -/
def itemsBetween (first last : Nat) (xs : List α) : List α :=
  (xs.zipIdx.filter fun item => first ≤ item.2 ∧ item.2 ≤ last).map Prod.fst

/-- Positions that are counted from some number on. -/
theorem map_fst_filter_zipIdx (first last start : Nat) (xs : List α) :
    ((xs.zipIdx start).filter fun item => first ≤ item.2 ∧ item.2 ≤ last).map Prod.fst =
      (xs.drop (first - start)).take (last + 1 - max first start) := by
  induction xs generalizing start with
  | nil => simp
  | cons x xs ih =>
    rw [List.zipIdx_cons, List.filter_cons]
    rcases Nat.lt_or_ge start first with hbefore | hfrom
    · -- The items in front are passed over.
      have hskip : first - start = first - (start + 1) + 1 := by omega
      have hmax : max first start = max first (start + 1) := by omega
      rw [if_neg (by simp; omega), ih, hskip, hmax, List.drop_succ_cons]
    · have hskip : first - start = 0 ∧ first - (start + 1) = 0 := by omega
      have hmax : max first start = start ∧ max first (start + 1) = start + 1 := by omega
      rcases Nat.lt_or_ge last start with hbehind | hto
      · -- Behind the last position nothing is left to take.
        have hnone : last + 1 - start = 0 ∧ last + 1 - (start + 1) = 0 := by omega
        rw [if_neg (by simp; omega), ih, hmax.1, hmax.2, hnone.1, hnone.2, List.take_zero,
          List.take_zero]
      · have hkeep : last + 1 - start = last + 1 - (start + 1) + 1 := by omega
        rw [if_pos (by simp; omega), List.map_cons, ih, hskip.1, hskip.2, hmax.1, hmax.2, hkeep,
          List.drop_zero, List.drop_zero, List.take_succ_cons]

theorem itemsBetween_eq (first last : Nat) (xs : List α) :
    itemsBetween first last xs = (xs.drop first).take (last + 1 - first) := by
  rw [itemsBetween, map_fst_filter_zipIdx, Nat.sub_zero, Nat.max_zero]

theorem items_mk (skipped kept : Nat) (xs : List α) :
    Window.items (some ⟨skipped, kept⟩) xs = (xs.drop skipped).take kept :=
  rfl

theorem items_ofRange (start stop : Nat) (xs : List α) :
    Window.items (some (.ofRange start stop)) xs = (xs.drop start).take (stop - start) :=
  rfl

/-- A list is selected from if it has a window. -/
theorem select_of_ok {window : Nat → Except Overflow (Option Window)} {xs : List α}
    {w : Option Window} (h : window xs.length = .ok w) :
    Window.select window xs = .ok (Window.items w xs) := by
  rw [Window.select, h]
  rfl

theorem select_takeWindow_front (count : Nat) (xs : List α) :
    Window.select (takeWindow false count) xs = .ok (xs.take (min count xs.length)) :=
  select_of_ok (takeWindow_eq false count xs.length)

theorem select_takeWindow_end (count : Nat) (xs : List α) :
    Window.select (takeWindow true count) xs =
      .ok (xs.drop (xs.length - min count xs.length)) := by
  rw [select_of_ok (takeWindow_eq true count xs.length), if_pos rfl, items_ofRange,
    List.take_of_length_le List.length_drop.le]

theorem select_sliceWindow {xs : List α} (h : xs.length < Nat.pow 2 64) (first last : Nat) :
    Window.select (sliceWindow first last) xs = .ok (itemsBetween first last xs) := by
  rw [select_of_ok (sliceWindow_eq h first last), itemsBetween_eq]
  congr 1
  split
  next hnone =>
    -- There is nothing at these positions.
    rw [Window.items]
    rcases hnone with hlt | hle
    · rw [Nat.sub_eq_zero_of_le hlt, List.take_zero]
    · rw [List.drop_of_length_le hle, List.take_nil]
  next hsome =>
    obtain ⟨hle, hlt⟩ := not_or.1 hsome
    rw [items_mk, List.take_eq_take_iff, List.length_drop]
    omega

/-- A window does not look at the items. -/
theorem items_map (f : α → β) (window : Option Window) (xs : List α) :
    Window.items window (xs.map f) = (Window.items window xs).map f := by
  cases window with
  | none => rfl
  | some window => simp [Window.items]

end Window

/-! ### Transformations -/

/-- The characters of a text as a list of texts. -/
def characters (text : String) : List Value :=
  text.toList.map fun c => .string (String.singleton c)

/-- Single characters are joined to the text that they spell. -/
theorem joinItems_characters (cs : List Char) :
    joinItems "" (.array (cs.map fun c => .string (String.singleton c))) =
      .string (String.ofList cs) := by
  have htexts : (cs.map fun c => Value.string (String.singleton c)) =
      (cs.map String.singleton).map .string := by
    rw [List.map_map]
    rfl
  have hletters : (cs.map fun c => [c]).flatten = cs := by
    rw [← List.flatMap_def]
    exact List.flatMap_singleton' cs
  rw [htexts, joinItems_texts]
  congr 1
  rw [← String.toList_inj, String.toList_intercalate, List.map_map, String.toList_ofList]
  simpa [Function.comp_def, Text.intercalate_empty] using hletters

theorem value_onWindow_array {window : Nat → Except Overflow (Option Window)}
    {items kept : List Value} (h : Window.select window items = .ok kept) (scope : Scope) :
    (onWindow window).value scope (.array items) = .array kept := by
  simp only [onWindow, Transform.pure, h]

/-- A text becomes the text of what becomes of the list of its characters. -/
theorem value_onWindow_string (window : Nat → Except Overflow (Option Window)) (scope : Scope)
    (text : String) :
    (onWindow window).value scope (.string text) =
      joinItems "" ((onWindow window).value scope (.array (characters text))) := by
  have hlength : (characters text).length = text.toList.length := List.length_map _
  simp only [onWindow, Transform.pure, Window.select, hlength]
  cases window text.toList.length with
  | error e => rfl
  | ok w =>
    simp only [Except.map, characters, items_map, joinItems_characters]

/-- A transformation selects items of a list, and characters of a text as if they were items. -/
structure Selects (transform : Transform) (select : List Value → List Value) : Prop where
  /-- What is selected from a list, whose length has 64 bits. -/
  array : ∀ scope items, items.length < Nat.pow 2 64 →
    transform.value scope (.array items) = .array (select items)
  /-- A text becomes the text of what becomes of the list of its characters. -/
  string : ∀ scope text, transform.value scope (.string text) =
    joinItems "" (transform.value scope (.array (characters text)))

theorem selects_onWindow {window : Nat → Except Overflow (Option Window)}
    {select : List Value → List Value}
    (h : ∀ items, items.length < Nat.pow 2 64 → Window.select window items = .ok (select items)) :
    Selects (onWindow window) select where
  array scope items hlength := value_onWindow_array (h items hlength) scope
  string scope text := value_onWindow_string window scope text

theorem takePipe_of_ok {fromEnd : Bool} {args : List String} {n : Nat}
    (h : readCount (if fromEnd then "takeLast" else "take") args = .ok n) :
    takePipe fromEnd args = .ok (onWindow (takeWindow fromEnd n)) := by
  rw [takePipe, h]
  rfl

/-- The pipe `slice` selects the items from its first position to its second one, both included.
The pipes `take` and `takeLast` select as many of the first and of the last items as their count
says, or all of them, so that both together give a list back if their counts add up to its length.
Texts are selected from as lists of their characters. No difference is below zero on the way and no
sum has more than 64 bits, whatever the positions and counts are. -/
theorem windows_exact :
    (pipes.find? "slice" = some slicePipe ∧ pipes.find? "take" = some (takePipe false) ∧
      pipes.find? "takeLast" = some (takePipe true)) ∧
    (∀ m n, m < Nat.pow 2 64 → n < Nat.pow 2 64 →
      readPosition [integerText m, integerText n] 0 = m ∧
        readPosition [integerText m, integerText n] 1 = n ∧
        ∀ pipe, readCount pipe [integerText m] = .ok m) ∧
    (∀ args, ∃ slice, slicePipe args = .ok slice ∧
      Selects slice (itemsBetween (readPosition args 0) (readPosition args 1))) ∧
    (∀ args n, readCount "take" args = .ok n → ∃ take, takePipe false args = .ok take ∧
      Selects take fun items => items.take (min n items.length)) ∧
    (∀ args n, readCount "takeLast" args = .ok n → ∃ takeLast, takePipe true args = .ok takeLast ∧
      Selects takeLast fun items => items.drop (items.length - min n items.length)) ∧
    (∀ items args args' take takeLast n, items.length < Nat.pow 2 64 → n ≤ items.length →
      readCount "take" args = .ok n → takePipe false args = .ok take →
      readCount "takeLast" args' = .ok (items.length - n) → takePipe true args' = .ok takeLast →
      ∀ scope, ∃ front back, take.value scope (.array items) = .array front ∧
        takeLast.value scope (.array items) = .array back ∧ front ++ back = items) ∧
    ∀ length, length < Nat.pow 2 64 →
      (∀ first last, ∃ window, sliceWindow first last length = .ok window) ∧
      ∀ fromEnd count, ∃ window, takeWindow fromEnd count length = .ok window := by
  have htake {args : List String} {n : Nat} (hcount : readCount "take" args = .ok n) :
      ∃ take, takePipe false args = .ok take ∧
        Selects take fun items => items.take (min n items.length) :=
    ⟨_, takePipe_of_ok hcount, selects_onWindow fun items _ => select_takeWindow_front n items⟩
  have hlast {args : List String} {n : Nat} (hcount : readCount "takeLast" args = .ok n) :
      ∃ takeLast, takePipe true args = .ok takeLast ∧
        Selects takeLast fun items => items.drop (items.length - min n items.length) :=
    ⟨_, takePipe_of_ok hcount, selects_onWindow fun items _ => select_takeWindow_end n items⟩
  refine ⟨⟨rfl, rfl, rfl⟩, fun m n hm hn => ⟨?_, ?_, fun pipe => ?_⟩, fun args => ?_,
    fun args n => htake, fun args n => hlast, ?_, fun length hlength => ⟨?_, ?_⟩⟩
  · simp [readPosition, trimmed_integerText, readWord?_integerText hm]
  · simp [readPosition, trimmed_integerText, readWord?_integerText hn]
  · simp [readCount, trimmed_integerText, readWord?_integerText hm]
  · exact ⟨_, rfl, selects_onWindow fun items hlength => select_sliceWindow hlength _ _⟩
  · intro items args args' take takeLast n hlength hn hcount hread hcount' hread' scope
    obtain ⟨_, htake, hfront⟩ := htake hcount
    obtain rfl := Except.ok.inj (hread.symm.trans htake)
    obtain ⟨_, hlast, hback⟩ := hlast hcount'
    obtain rfl := Except.ok.inj (hread'.symm.trans hlast)
    refine ⟨_, _, hfront.array scope items hlength, hback.array scope items hlength, ?_⟩
    -- The last items begin where the first ones end.
    have hstart : items.length - min (items.length - n) items.length = n := by omega
    rw [hstart, Nat.min_eq_left hn, List.take_append_drop]
  · exact fun first last => ⟨_, sliceWindow_eq hlength first last⟩
  · exact fun fromEnd count => ⟨_, takeWindow_eq fromEnd count length⟩

/-- Positions around the whole list but its first item, the last one being the largest there is,
and a text with a letter beyond ASCII. -/
theorem windows_exact_largest :
    let items : List Value := [.null, .bool true, .string "a", .array [], .string "b"]
    let args := [" 1 ", "18446744073709551615"]
    items.length < Nat.pow 2 64 ∧ readCount "take" ["+2"] = .ok 2 ∧
      readCount "takeLast" ["3"] = .ok (items.length - 2) ∧
      ∃ slice take takeLast, slicePipe args = .ok slice ∧ takePipe false ["+2"] = .ok take ∧
        takePipe true ["3"] = .ok takeLast ∧ ∀ scope,
          slice.value scope (.array items) = .array items.tail ∧
          slice.value scope (.string "naïve") = .string "aïve" ∧
          take.value scope (.array items) = .array [.null, .bool true] ∧
          takeLast.value scope (.array items) = .array [.string "a", .array [], .string "b"] ∧
          (∃ front back, take.value scope (.array items) = .array front ∧
            takeLast.value scope (.array items) = .array back ∧ front ++ back = items) ∧
          ∃ window, sliceWindow 1 18446744073709551615 items.length = .ok window := by
  intro items args
  have hlength : items.length < Nat.pow 2 64 := by decide
  have htwo : readCount "take" ["+2"] = .ok 2 := by decide +kernel
  have hthree : readCount "takeLast" ["3"] = .ok (items.length - 2) := by decide +kernel
  have hfirst : readPosition args 0 = 1 := by decide +kernel
  have hlast : readPosition args 1 = 18446744073709551615 := by decide +kernel
  obtain ⟨-, -, hslice, htake, htakeLast, hboth, hexact⟩ := windows_exact
  obtain ⟨slice, hslice, hbetween⟩ := hslice args
  obtain ⟨take, htake, hfront⟩ := htake _ _ htwo
  obtain ⟨takeLast, htakeLast, hback⟩ := htakeLast _ _ hthree
  rw [hfirst, hlast] at hbetween
  refine ⟨hlength, htwo, hthree, slice, take, takeLast, hslice, htake, htakeLast, fun scope =>
    ⟨hbetween.array scope items hlength, ?_, hfront.array scope items hlength,
      hback.array scope items hlength,
      hboth items _ _ take takeLast 2 hlength (by decide) htwo htake hthree htakeLast scope,
      (hexact _ hlength).1 _ _⟩⟩
  rw [hbetween.string, hbetween.array scope _ (by decide +kernel)]
  rfl

end Standard

end AccessPolicy
