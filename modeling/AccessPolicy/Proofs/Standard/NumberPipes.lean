import AccessPolicy.Standard.NumberPipes

/-!
# Grouped thousands

A comma stands behind each digit with a multiple of three digits behind it. Taking the commas out
gives the digits back (`filter_groupDigits`), the first and the last character stay what they are,
and the commas cut the digits into one group of one to three and further groups of three
(`splitOn_groupDigits`). A sign in front of the digits is passed over (`groupThousands_exact`).
-/

namespace AccessPolicy.Standard

variable {digits : List Char}

/-- The commas are all that grouping adds. -/
theorem filter_groupDigits (h : ',' ∉ digits) :
    (groupDigits digits).filter (· ≠ ',') = digits := by
  fun_induction groupDigits digits with
  | case1 => rfl
  | case2 c => exact List.filter_eq_self.2 fun d hd => by simpa using ne_of_mem_of_not_mem hd h
  | case3 c d cs hcomma ih =>
    obtain ⟨hc, hrest⟩ := not_or.1 (mt List.mem_cons.2 h)
    rw [List.filter_cons_of_pos (by simpa using Ne.symm hc), List.filter_cons_of_neg (by simp),
      ih hrest]
  | case4 c d cs hcomma ih =>
    obtain ⟨hc, hrest⟩ := not_or.1 (mt List.mem_cons.2 h)
    rw [List.filter_cons_of_pos (by simpa using Ne.symm hc), ih hrest]

theorem head?_groupDigits (digits : List Char) : (groupDigits digits).head? = digits.head? := by
  fun_cases groupDigits digits <;> rfl

theorem groupDigits_cons_ne_nil (d : Char) (cs : List Char) : groupDigits (d :: cs) ≠ [] := by
  intro h
  have hhead := head?_groupDigits (d :: cs)
  rw [h] at hhead
  cases hhead

theorem getLast?_groupDigits (digits : List Char) :
    (groupDigits digits).getLast? = digits.getLast? := by
  fun_induction groupDigits digits with
  | case1 => rfl
  | case2 c => rfl
  | case3 c d cs hcomma ih =>
    -- More digits follow the comma.
    rw [List.getLast?_cons_cons, List.getLast?_cons_of_ne_nil (groupDigits_cons_ne_nil d cs), ih,
      List.getLast?_cons_cons]
  | case4 c d cs hcomma ih =>
    rw [List.getLast?_cons_of_ne_nil (groupDigits_cons_ne_nil d cs), ih, List.getLast?_cons_cons]

/-- Each comma has whole groups behind it, so the first group has what is left over. -/
theorem splitOn_groupDigits (hsome : digits ≠ []) (h : ',' ∉ digits) :
    ∃ first rest, (groupDigits digits).splitOn ',' = first :: rest ∧
      first.length = (digits.length - 1) % 3 + 1 ∧ ∀ group ∈ rest, group.length = 3 := by
  fun_induction groupDigits digits with
  | case1 => exact absurd rfl hsome
  | case2 c => exact ⟨[c], [], List.splitOn_eq_singleton h, rfl, List.forall_mem_nil _⟩
  | case3 c d cs hcomma ih =>
    obtain ⟨hc, hrest⟩ := not_or.1 (mt List.mem_cons.2 h)
    obtain ⟨first, rest, hsplit, hfirst, hthree⟩ := ih (List.cons_ne_nil d cs) hrest
    -- What was the first group until now is a whole group.
    have hwhole : first.length = 3 := by
      rw [hfirst, List.length_cons]
      omega
    refine ⟨[c], first :: rest, ?_, ?_, List.forall_mem_cons.2 ⟨hwhole, hthree⟩⟩
    · rw [← hsplit]
      exact List.splitOn_append_cons_self_of_not_mem (mt List.mem_singleton.1 hc) _
    · simp only [List.length_cons, List.length_nil]
      omega
  | case4 c d cs hcomma ih =>
    obtain ⟨hc, hrest⟩ := not_or.1 (mt List.mem_cons.2 h)
    obtain ⟨first, rest, hsplit, hfirst, hthree⟩ := ih (List.cons_ne_nil d cs) hrest
    -- The first group was not whole yet and has one digit more now.
    refine ⟨c :: first, rest, ?_, ?_, hthree⟩
    · rw [List.splitOn_cons_eq_if_modifyHead, if_neg (by simpa using Ne.symm hc), hsplit,
        List.modifyHead_cons]
    · rw [List.length_cons, hfirst]
      simp only [List.length_cons]
      omega

/-- Without a sign, or behind a minus sign, the digits are grouped. -/
theorem groupThousands_signed {sign : List Char} (hsign : sign = [] ∨ sign = ['-'])
    (h : '-' ∉ digits) : groupThousands (sign ++ digits) = sign ++ groupDigits digits := by
  rcases hsign with rfl | rfl
  · rw [List.nil_append, List.nil_append]
    unfold groupThousands
    split
    next rest => exact absurd List.mem_cons_self h
    next => rfl
  · rfl

/-- Digits with or without a sign are grouped behind the sign. Taking the commas out gives the
number back, no comma stands next to the sign or at the end, and the commas cut the digits into
groups of three, but for the first group, which has one to three digits. -/
theorem groupThousands_exact {sign : List Char} (hsign : sign = [] ∨ sign = ['-'])
    (hsome : digits ≠ []) (h : ∀ c ∈ digits, c.isDigit = true) :
    ∃ grouped, groupThousands (sign ++ digits) = sign ++ grouped ∧
      (groupThousands (sign ++ digits)).filter (· ≠ ',') = sign ++ digits ∧
      grouped.head? ≠ some ',' ∧ grouped.getLast? ≠ some ',' ∧
      ∃ first rest, grouped.splitOn ',' = first :: rest ∧ 1 ≤ first.length ∧ first.length ≤ 3 ∧
        ∀ group ∈ rest, group.length = 3 := by
  have hmark {c : Char} (hc : c.isDigit = false) : c ∉ digits := fun hmem => by
    rw [h c hmem] at hc
    cases hc
  have hcomma : ',' ∉ digits := hmark rfl
  have hsigned := groupThousands_signed hsign (hmark rfl)
  refine ⟨groupDigits digits, hsigned, ?_, ?_, ?_, ?_⟩
  · have hplain : sign.filter (· ≠ ',') = sign := by rcases hsign with rfl | rfl <;> rfl
    rw [hsigned, List.filter_append, hplain, filter_groupDigits hcomma]
  · rw [head?_groupDigits]
    exact fun hhead => hcomma (List.mem_of_head? hhead)
  · rw [getLast?_groupDigits]
    exact fun hlast => hcomma (List.mem_of_getLast? hlast)
  · obtain ⟨first, rest, hsplit, hfirst, hthree⟩ := splitOn_groupDigits hsome hcomma
    exact ⟨first, rest, hsplit, by omega, by omega, hthree⟩

/-- Seven digits behind a sign, so that the first group has a single one. -/
theorem groupThousands_exact_million :
    let digits := "1234567".toList
    digits ≠ [] ∧ (∀ c ∈ digits, c.isDigit = true) ∧
      groupThousands ('-' :: digits) = "-1,234,567".toList ∧
      (groupThousands ('-' :: digits)).filter (· ≠ ',') = '-' :: digits ∧
      ∃ first rest, "1,234,567".toList.splitOn ',' = first :: rest ∧ 1 ≤ first.length ∧
        first.length ≤ 3 ∧ ∀ group ∈ rest, group.length = 3 := by
  intro digits
  have hsome : digits ≠ [] := by decide
  have hdigits : ∀ c ∈ digits, c.isDigit = true := List.all_eq_true.1 rfl
  have hsign : ['-'] = [] ∨ ['-'] = ['-'] := .inr rfl
  have hvalue : groupThousands (['-'] ++ digits) = ['-'] ++ "1,234,567".toList := rfl
  obtain ⟨grouped, htext, hfilter, -, -, hgroups⟩ := groupThousands_exact hsign hsome hdigits
  obtain rfl := List.append_cancel_left (hvalue.symm.trans htext)
  exact ⟨hsome, hdigits, rfl, hfilter, hgroups⟩

end AccessPolicy.Standard
