import Skan.Detect.ServiceDb

/-!
# Comments and tokens

`without_comment` looks for the `#` that begins a comment before `tokenize` reads the line. They
agree on where that is exactly for the lines of `Agreeable` (`cutsAt_iff_meets_iff`).

## Where they part

Inside double quotes both take a backslash to escape the next character. Outside, only `tokenize`
does. After a `"` behind such a backslash (a slip) one of them is inside quotes and the other is
not, and stays so until the next slip: `quotedAt` and the quotes of `tokenize` differ by the parity
of the slips so far (`quoted_tokenScan`). The `#` characters up to the cut are then all that
matters.
-/

namespace Skan.Detect.ServiceDb

open Skan.Core

variable {quoted : Bool} {text line front back rest : Text} {c : UInt8}

/-! ### The two scanners -/

/-- `tokenize` comes to a point of the line: inside quotes or not, and with this left to read. -/
inductive Comes (line : Text) : Bool → Text → Prop where
  | start : Comes line false line
  | pass {quoted quoted' : Bool} {text bytes rest : Text} :
    Comes line quoted text → pass quoted text = some (bytes, quoted', rest) →
      Comes line quoted' rest

/-- `tokenize` meets the `#` behind some text, outside quotes and not as an escaped character. -/
def Meets (line front : Text) : Prop :=
  ∃ back, line = front ++ 0x23 :: back ∧ Comes line false (0x23 :: back)

/-- `without_comment` cuts at the `#` behind some text. -/
def CutsAt (line front : Text) : Prop :=
  withoutComment line = front ∧ ∃ back, line = front ++ 0x23 :: back

/-- The cut is where `tokenize` meets a `#` first, if it meets any. -/
def CommentsAgree (line : Text) : Prop :=
  ∀ front, CutsAt line front ↔
    Meets line front ∧ ∀ front', Meets line front' → front.length ≤ front'.length

/-- Whether a scanner is inside quotes, and whether the next character is escaped. -/
@[ext]
structure Scan where
  quoted : Bool := false
  escaped : Bool := false

def commentStep (s : Scan) (c : UInt8) : Scan :=
  if s.escaped then { s with escaped := false }
  else if s.quoted && c = 0x5C then { s with escaped := true }
  else if c = 0x22 then { s with quoted := !s.quoted }
  else s

def tokenStep (s : Scan) (c : UInt8) : Scan :=
  if s.escaped then { s with escaped := false }
  else if c = 0x5C then { s with escaped := true }
  else if c = 0x22 then { s with quoted := !s.quoted }
  else s

/-- Where `without_comment` is after some text that it does not cut. -/
def commentScan (front : Text) : Scan := front.foldl commentStep {}

/-- Where `tokenize` is after some text. -/
def tokenScan (front : Text) : Scan := front.foldl tokenStep {}

/-! ### The condition -/

/-- Whether `without_comment` is inside quotes after some text. -/
def quotedAt (front : Text) : Bool := (commentScan front).quoted

/-- Behind a backslash that is not itself escaped: the text ends in an odd number of them. -/
def oddBackslashes (front : Text) : Bool := (front.reverse.takeWhile (· = 0x5C)).length % 2 = 1

/-- The double quotes behind a backslash outside quotes. -/
def slips (front : Text) : List ℕ :=
  (List.range front.length).filter fun i ↦
    front[i]? = some 0x22 && !quotedAt (front.take i) && oddBackslashes (front.take i)

/-- Up to the first `#` outside quotes and with it, no `#` is behind an odd number of slips, save
those that are escaped in quotes, and that `#` is not behind a backslash. -/
def Agreeable (line : Text) : Prop :=
  ∀ front back, line = front ++ 0x23 :: back →
    (∀ front' back', line = front' ++ 0x23 :: back' → front'.length < front.length →
      quotedAt front' = true) →
    if quotedAt front then oddBackslashes front = true ∨ (slips front).length % 2 = 0
    else oddBackslashes front = false ∧ (slips front).length % 2 = 0

/-! ### Step by step -/

theorem commentScan_append (front : Text) (c : UInt8) :
    commentScan (front ++ [c]) = commentStep (commentScan front) c := by
  rw [commentScan, List.foldl_append]
  rfl

theorem tokenScan_append (front : Text) (c : UInt8) :
    tokenScan (front ++ [c]) = tokenStep (tokenScan front) c := by
  rw [tokenScan, List.foldl_append]
  rfl

theorem oddBackslashes_append (front : Text) (c : UInt8) :
    oddBackslashes (front ++ [c]) = (c = 0x5C && !oddBackslashes front) := by
  unfold oddBackslashes
  rw [List.reverse_append, List.reverse_singleton, List.singleton_append]
  by_cases hc : c = 0x5C
  · rw [List.takeWhile_cons, if_pos (decide_eq_true hc), List.length_cons]
    simp only [hc, decide_true, Bool.true_and]
    by_cases hodd : (front.reverse.takeWhile (· = 0x5C)).length % 2 = 1
    · simp only [hodd, decide_true, Bool.not_true, decide_eq_false_iff_not]
      omega
    · simp only [hodd, decide_false, Bool.not_false, decide_eq_true_eq]
      omega
  · rw [List.takeWhile_cons, if_neg (by simpa using hc)]
    simp [hc]

/-- One more character is a slip or not. -/
theorem length_slips_append (front : Text) (c : UInt8) :
    (slips (front ++ [c])).length = (slips front).length +
      if c = 0x22 ∧ quotedAt front = false ∧ oddBackslashes front = true then 1 else 0 := by
  have hfront : ∀ i ∈ List.range front.length,
      ((front ++ [c])[i]? = some 0x22 && !quotedAt ((front ++ [c]).take i) &&
        oddBackslashes ((front ++ [c]).take i)) =
      (front[i]? = some 0x22 && !quotedAt (front.take i) && oddBackslashes (front.take i)) := by
    intro i hi
    have hlt := List.mem_range.mp hi
    rw [List.getElem?_append_left hlt, List.take_append_of_le_length hlt.le]
  unfold slips
  rw [List.length_append, List.length_singleton, List.range_succ, List.filter_append,
    List.filter_congr hfront, List.length_append, List.filter_singleton]
  congr 1
  rw [List.getElem?_concat_length, List.take_left]
  by_cases hslip : c = 0x22 ∧ quotedAt front = false ∧ oddBackslashes front = true
  · rw [if_pos hslip]
    simp [hslip]
  · have hfilter : (some c = some 0x22 && !quotedAt front && oddBackslashes front) = false := by
      refine Bool.eq_false_of_not_eq_true fun hfilter ↦ hslip ?_
      simpa only [Bool.and_eq_true, decide_eq_true_eq, Bool.not_eq_true', Option.some.injEq,
        and_assoc] using hfilter
    rw [if_neg hslip, hfilter]
    rfl

/-- A backslash escapes in `tokenize` wherever it stands. -/
theorem escaped_tokenScan (front : Text) : (tokenScan front).escaped = oddBackslashes front := by
  induction front using List.reverseRecOn with
  | nil => rfl
  | append_singleton front c ih =>
    rw [tokenScan_append, oddBackslashes_append, ← ih, tokenStep]
    split_ifs with hescaped hbackslash hquote
    · rw [hescaped]
      simp
    · rw [Bool.eq_false_of_not_eq_true hescaped]
      simp [hbackslash]
    · rw [Bool.eq_false_of_not_eq_true hescaped]
      simp [hbackslash]
    · rw [Bool.eq_false_of_not_eq_true hescaped]
      simp [hbackslash]

/-- A backslash escapes in `without_comment` only inside quotes, and whether it is inside of them
differs from `tokenize` by the parity of the slips. -/
theorem scans_agree (front : Text) :
    (commentScan front).escaped = (quotedAt front && oddBackslashes front) ∧
    (tokenScan front).quoted = (quotedAt front ^^ decide ((slips front).length % 2 = 1)) := by
  induction front using List.reverseRecOn with
  | nil => exact ⟨rfl, rfl⟩
  | append_singleton front c ih =>
    obtain ⟨hcomment, htoken⟩ := ih
    have hcommentScan : commentScan front =
        ⟨quotedAt front, quotedAt front && oddBackslashes front⟩ := by
      rw [← hcomment]
      rfl
    have htokenScan : tokenScan front =
        ⟨quotedAt front ^^ decide ((slips front).length % 2 = 1), oddBackslashes front⟩ := by
      rw [← htoken, ← escaped_tokenScan]
    have hnext : quotedAt (front ++ [c]) = (commentStep (commentScan front) c).quoted := by
      rw [quotedAt, commentScan_append]
    have hparity : ∀ n : ℕ, decide ((n + 1) % 2 = 1) = !decide (n % 2 = 1) := by
      intro n
      rcases Nat.mod_two_eq_zero_or_one n with h | h
      · simp [h, Nat.add_mod]
      · simp [h, Nat.add_mod]
    rw [hnext, commentScan_append, tokenScan_append, oddBackslashes_append, length_slips_append,
      hcommentScan, htokenScan]
    generalize quotedAt front = quoted
    generalize oddBackslashes front = odd
    generalize (slips front).length = count
    by_cases hbackslash : c = 0x5C
    · subst hbackslash
      cases quoted <;> cases odd <;> simp [commentStep, tokenStep]
    · by_cases hquote : c = 0x22
      · subst hquote
        cases quoted <;> cases odd <;> simp [commentStep, tokenStep, hparity]
      · cases quoted <;> cases odd <;> simp [commentStep, tokenStep, hbackslash, hquote]

/-! ### Where the scanners come to -/

/-- An escape takes in the two digits behind `\x`, or no more than the escaped character. -/
theorem escape_cases (escaped : UInt8) (rest : Text) :
    (escape escaped rest).2 = rest ∨
    ∃ high low, escaped = 0x78 ∧ rest = high :: low :: (escape escaped rest).2 ∧
      (digitValue high).isSome = true ∧ (digitValue low).isSome = true := by
  unfold escape
  cases hread : (if escaped = 0x78 then hexEscape rest else none) with
  | none =>
    left
    cases decodeEscape escaped <;> rfl
  | some found =>
    right
    split_ifs at hread with hx
    unfold hexEscape at hread
    split at hread
    · rename_i high low after
      split at hread
      · rename_i hhigh hlow
        cases hread
        exact ⟨high, low, hx, rfl, by rw [hhigh]; rfl, by rw [hlow]; rfl⟩
      · exact nomatch hread
    · exact nomatch hread

/-- What a pass reads: a quote, an escape by two digits, another escape, or a character. -/
theorem pass_cases {quoted' : Bool} {bytes : Text}
    (h : pass quoted text = some (bytes, quoted', rest)) :
    (text = 0x22 :: rest ∧ quoted' = !quoted) ∨
    (∃ high low, text = 0x5C :: 0x78 :: high :: low :: rest ∧ (digitValue high).isSome = true ∧
      (digitValue low).isSome = true ∧ quoted' = quoted) ∨
    (∃ escaped, text = 0x5C :: escaped :: rest ∧ quoted' = quoted) ∨
    ∃ c, text = c :: rest ∧ c ≠ 0x22 ∧ c ≠ 0x5C ∧ quoted' = quoted := by
  cases text with
  | nil => exact nomatch h
  | cons c text =>
    unfold pass at h
    dsimp only at h
    split_ifs at h with hquote hbackslash
    · cases h
      exact .inl ⟨by rw [hquote], rfl⟩
    · subst hbackslash
      cases text with
      | nil => exact nomatch h
      | cons escaped text =>
        dsimp only at h
        obtain ⟨-, hrest⟩ := Prod.mk.inj (Option.some.inj h)
        obtain ⟨rfl, rfl⟩ := Prod.mk.inj hrest
        rcases escape_cases escaped text with hrest | ⟨high, low, rfl, hrest, hhigh, hlow⟩
        · exact .inr (.inr (.inl ⟨escaped, by rw [hrest], rfl⟩))
        · have htext := congrArg (fun text ↦ 0x5C :: 0x78 :: text) hrest
          exact .inr (.inl ⟨high, low, htext, hhigh, hlow, rfl⟩)
    · cases h
      exact .inr (.inr (.inr ⟨c, rfl, hquote, hbackslash, rfl⟩))

theorem pass_self (hquote : c ≠ 0x22) (hbackslash : c ≠ 0x5C) :
    pass quoted (c :: text) = some ([c], quoted, text) := by
  unfold pass
  dsimp only
  rw [if_neg hquote, if_neg hbackslash]

theorem ne_of_digit (h : (digitValue c).isSome = true) : c ≠ 0x5C ∧ c ≠ 0x22 ∧ c ≠ 0x23 :=
  forall_byte (p := fun c ↦ (digitValue c).isSome = true → c ≠ 0x5C ∧ c ≠ 0x22 ∧ c ≠ 0x23)
    (by decide +kernel) c h

/-- A hexadecimal digit means nothing to the scanner. -/
theorem tokenStep_of_digit (h : (digitValue c).isSome = true) :
    tokenStep ⟨quoted, false⟩ c = ⟨quoted, false⟩ := by
  obtain ⟨hbackslash, hquote, -⟩ := ne_of_digit h
  simp [tokenStep, hbackslash, hquote]

/-- A pass moves the scanner as its characters do. -/
theorem foldl_of_pass {quoted' : Bool} {bytes : Text}
    (h : pass quoted text = some (bytes, quoted', rest)) :
    ∃ front, text = front ++ rest ∧ front.foldl tokenStep ⟨quoted, false⟩ = ⟨quoted', false⟩ := by
  rcases pass_cases h with ⟨rfl, rfl⟩ | ⟨high, low, rfl, hhigh, hlow, rfl⟩ | ⟨escaped, rfl, rfl⟩ |
    ⟨c, rfl, hquote, hbackslash, rfl⟩
  · exact ⟨[0x22], rfl, rfl⟩
  · refine ⟨[0x5C, 0x78, high, low], rfl, ?_⟩
    show tokenStep (tokenStep ⟨quoted', false⟩ high) low = _
    rw [tokenStep_of_digit hhigh, tokenStep_of_digit hlow]
  · exact ⟨[0x5C, escaped], rfl, rfl⟩
  · exact ⟨[c], rfl, by simp [tokenStep, hquote, hbackslash]⟩

theorem tokenScan_of_comes (h : Comes line quoted rest) :
    ∃ front, line = front ++ rest ∧ tokenScan front = ⟨quoted, false⟩ := by
  induction h with
  | start => exact ⟨[], rfl, rfl⟩
  | pass _ hpass ih =>
    obtain ⟨front, rfl, hscan⟩ := ih
    obtain ⟨read, rfl, hread⟩ := foldl_of_pass hpass
    refine ⟨front ++ read, by rw [List.append_assoc], ?_⟩
    rw [tokenScan, List.foldl_append]
    rw [tokenScan] at hscan
    rw [hscan, hread]

/-- `tokenize` comes to every `#` that the scanner finds outside quotes and not escaped. -/
theorem comes_of_foldl (h : Comes line quoted (front ++ 0x23 :: back))
    (hscan : front.foldl tokenStep ⟨quoted, false⟩ = ⟨false, false⟩) :
    Comes line false (0x23 :: back) := by
  induction hlength : front.length using Nat.strong_induction_on generalizing front quoted with
  | _ length ih =>
  cases front with
  | nil =>
    cases hscan
    exact h
  | cons c front =>
    have hnext : ∀ {quoted' : Bool} {bytes front' : Text},
        pass quoted (c :: front ++ 0x23 :: back) = some (bytes, quoted', front' ++ 0x23 :: back) →
        front'.length ≤ front.length →
        front'.foldl tokenStep ⟨quoted', false⟩ = ⟨false, false⟩ →
        Comes line false (0x23 :: back) := by
      intro quoted' bytes front' hpass hle hscan
      exact ih _ (by rw [← hlength, List.length_cons]; omega) (h.pass hpass) hscan rfl
    by_cases hquote : c = 0x22
    · subst hquote
      exact hnext rfl le_rfl hscan
    by_cases hbackslash : c = 0x5C
    · subst hbackslash
      cases front with
      | nil => exact nomatch hscan
      | cons escaped front =>
        have hpass : pass quoted (0x5C :: escaped :: front ++ 0x23 :: back) =
            some ((escape escaped (front ++ 0x23 :: back)).1, quoted,
              (escape escaped (front ++ 0x23 :: back)).2) := rfl
        rcases escape_cases escaped (front ++ 0x23 :: back) with
          hrest | ⟨high, low, rfl, hrest, hhigh, hlow⟩
        · rw [hrest] at hpass
          exact hnext hpass (Nat.le_succ _) hscan
        · -- neither digit is the `#`
          match front with
          | [] => exact absurd (List.cons.inj hrest).1.symm (ne_of_digit hhigh).2.2
          | [high'] =>
            exact absurd (List.cons.inj (List.cons.inj hrest).2).1.symm (ne_of_digit hlow).2.2
          | high' :: low' :: front =>
            obtain ⟨hhigh', hrest⟩ := List.cons.inj hrest
            obtain ⟨hlow', hrest⟩ := List.cons.inj hrest
            rw [← hhigh'] at hhigh
            rw [← hlow'] at hlow
            rw [← hrest] at hpass
            refine hnext hpass (by simp only [List.length_cons]; omega) ?_
            have hdigits : tokenStep (tokenStep ⟨quoted, false⟩ high') low' = ⟨quoted, false⟩ := by
              rw [tokenStep_of_digit hhigh, tokenStep_of_digit hlow]
            rw [← hdigits]
            exact hscan
    · refine hnext (pass_self hquote hbackslash) le_rfl ?_
      rw [List.foldl_cons] at hscan
      have hstep : tokenStep ⟨quoted, false⟩ c = ⟨quoted, false⟩ := by
        simp [tokenStep, hquote, hbackslash]
      rwa [hstep] at hscan

theorem meets_iff :
    Meets line front ↔
      (∃ back, line = front ++ 0x23 :: back) ∧ tokenScan front = ⟨false, false⟩ := by
  constructor
  · rintro ⟨back, hline, hcomes⟩
    obtain ⟨front', hline', hscan⟩ := tokenScan_of_comes hcomes
    obtain rfl := List.append_cancel_right (hline.symm.trans hline')
    exact ⟨⟨back, hline⟩, hscan⟩
  · rintro ⟨⟨back, hline⟩, hscan⟩
    exact ⟨back, hline, comes_of_foldl (hline ▸ .start) hscan⟩

theorem withoutCommentFrom_cons {escaped : Bool}
    (h : ¬ (c = 0x23 ∧ quoted = false ∧ escaped = false)) :
    withoutCommentFrom quoted escaped (c :: text) =
      c :: withoutCommentFrom (commentStep ⟨quoted, escaped⟩ c).quoted
        (commentStep ⟨quoted, escaped⟩ c).escaped text := by
  rw [withoutCommentFrom]
  cases quoted <;> cases escaped <;> simp only [commentStep] <;> split_ifs <;> simp_all

/-- `without_comment` goes on as long as it meets no `#` outside quotes. -/
theorem withoutCommentFrom_append {escaped : Bool} (front : Text) (text : Text)
    (h : ∀ front' back', front = front' ++ 0x23 :: back' →
      front'.foldl commentStep ⟨quoted, escaped⟩ ≠ ⟨false, false⟩) :
    withoutCommentFrom quoted escaped (front ++ text) =
      front ++ withoutCommentFrom (front.foldl commentStep ⟨quoted, escaped⟩).quoted
        (front.foldl commentStep ⟨quoted, escaped⟩).escaped text := by
  induction front generalizing quoted escaped with
  | nil => rfl
  | cons c front ih =>
    have hc : ¬ (c = 0x23 ∧ quoted = false ∧ escaped = false) := by
      rintro ⟨rfl, rfl, rfl⟩
      exact h [] front rfl rfl
    rw [List.cons_append, withoutCommentFrom_cons hc, ih fun front' back' hfront hscan ↦ ?_]
    · rfl
    · exact h (c :: front') back' (by rw [hfront]; rfl) hscan

/-- Outside quotes nothing is escaped. -/
theorem commentScan_eq_iff : commentScan front = ⟨false, false⟩ ↔ quotedAt front = false := by
  constructor
  · intro h
    rw [quotedAt, h]
  · intro h
    have hescaped := (scans_agree front).1
    rw [h, Bool.false_and] at hescaped
    exact Scan.ext h hescaped

theorem exists_shortest {p : Text → Prop} (h : p front) :
    ∃ shortest, p shortest ∧ ∀ front', p front' → shortest.length ≤ front'.length := by
  obtain ⟨shortest, hshortest, hmin⟩ :=
    WellFounded.has_min (measure List.length).wf {front | p front} ⟨front, h⟩
  exact ⟨shortest, hshortest, fun front' h' ↦ Nat.not_lt.mp (hmin front' h')⟩

/-- Text in which every `#` is inside quotes is kept. -/
theorem withoutComment_append (back : Text)
    (h : ∀ front' back', front = front' ++ 0x23 :: back' → quotedAt front' = true) :
    withoutComment (front ++ back) = front ++ withoutCommentFrom (commentScan front).quoted
      (commentScan front).escaped back := by
  refine withoutCommentFrom_append front back fun front' back' hfront hscan ↦ ?_
  have hquoted := h front' back' hfront
  rw [commentScan_eq_iff.mp hscan] at hquoted
  exact nomatch hquoted

theorem withoutComment_of_first (hquoted : quotedAt front = false)
    (h : ∀ front' back', front = front' ++ 0x23 :: back' → quotedAt front' = true) :
    withoutComment (front ++ 0x23 :: back) = front := by
  rw [withoutComment_append _ h, commentScan_eq_iff.mpr hquoted]
  exact List.append_nil front

/-- Before a `#` outside quotes, or there, is the first of them. -/
theorem exists_first (hline : line = front ++ 0x23 :: back) (hquoted : quotedAt front = false) :
    ∃ first after, line = first ++ 0x23 :: after ∧ quotedAt first = false ∧
      first.length ≤ front.length ∧
      ∀ front' back', line = front' ++ 0x23 :: back' → front'.length < first.length →
        quotedAt front' = true := by
  obtain ⟨first, ⟨⟨after, hfirst⟩, hunquoted⟩, hshortest⟩ :=
    exists_shortest (p := fun front ↦ (∃ back, line = front ++ 0x23 :: back) ∧
      quotedAt front = false) ⟨⟨back, hline⟩, hquoted⟩
  refine ⟨first, after, hfirst, hunquoted, hshortest front ⟨⟨back, hline⟩, hquoted⟩, ?_⟩
  intro front' back' hline' hlt
  by_contra hopen
  rw [Bool.not_eq_true] at hopen
  exact absurd (hshortest front' ⟨⟨back', hline'⟩, hopen⟩) (Nat.not_le.mpr hlt)

theorem withoutComment_eq (hline : line = front ++ 0x23 :: back)
    (hquoted : quotedAt front = false)
    (hearlier : ∀ front' back', line = front' ++ 0x23 :: back' → front'.length < front.length →
      quotedAt front' = true) : withoutComment line = front := by
  rw [hline]
  refine withoutComment_of_first hquoted fun front' between hfront ↦ ?_
  refine hearlier front' (between ++ 0x23 :: back) ?_ ?_
  · rw [hline, hfront, List.append_assoc]
    rfl
  · rw [hfront, List.length_append, List.length_cons]
    omega

/-- `without_comment` cuts at the first `#` outside quotes. -/
theorem cutsAt_iff :
    CutsAt line front ↔ (∃ back, line = front ++ 0x23 :: back) ∧ quotedAt front = false ∧
      ∀ front' back', line = front' ++ 0x23 :: back' → front'.length < front.length →
        quotedAt front' = true := by
  constructor
  · rintro ⟨hcut, back, hline⟩
    have hearlier : ∀ front' back', line = front' ++ 0x23 :: back' →
        front'.length < front.length → quotedAt front' = true := by
      intro front' back' hline' hlt
      by_contra hquoted
      rw [Bool.not_eq_true] at hquoted
      obtain ⟨first, after, hfirst, hunquoted, hle, hbefore⟩ := exists_first hline' hquoted
      rw [← withoutComment_eq hfirst hunquoted hbefore, hcut] at hle
      omega
    refine ⟨⟨back, hline⟩, ?_, hearlier⟩
    by_contra hquoted
    rw [Bool.not_eq_false] at hquoted
    have hall : ∀ front' back', front ++ [0x23] = front' ++ 0x23 :: back' →
        quotedAt front' = true := by
      intro front' back' hfront
      rcases back'.eq_nil_or_concat with rfl | ⟨between, last, rfl⟩
      · rwa [← (List.append_inj' hfront rfl).1]
      · rw [List.concat_eq_append, ← List.cons_append, ← List.append_assoc] at hfront
        obtain ⟨hfront, -⟩ := List.append_inj' hfront rfl
        refine hearlier front' (between ++ 0x23 :: back) ?_ ?_
        · rw [hline, hfront, List.append_assoc]
          rfl
        · rw [hfront, List.length_append, List.length_cons]
          omega
    have hkept := withoutComment_append back hall
    rw [← List.append_cons, ← hline, hcut] at hkept
    have hlength := congrArg List.length hkept
    simp only [List.length_append, List.length_singleton] at hlength
    omega
  · rintro ⟨⟨back, hline⟩, hquoted, hearlier⟩
    exact ⟨withoutComment_eq hline hquoted hearlier, back, hline⟩

/-- Where the two agree about a `#`: either takes it for the beginning of a comment if the other
does. -/
theorem tokenScan_eq_iff :
    tokenScan front = ⟨false, false⟩ ↔ oddBackslashes front = false ∧
      (quotedAt front = decide ((slips front).length % 2 = 1)) := by
  rw [Scan.ext_iff, escaped_tokenScan, (scans_agree front).2]
  constructor
  · rintro ⟨hquoted, hodd⟩
    exact ⟨hodd, bne_eq_false_iff_eq.mp hquoted⟩
  · rintro ⟨hodd, hquoted⟩
    exact ⟨bne_eq_false_iff_eq.mpr hquoted, hodd⟩

/-- What `Agreeable` says of one `#`. -/
theorem agreeable_iff :
    Agreeable line ↔ ∀ front back, line = front ++ 0x23 :: back →
      (∀ front' back', line = front' ++ 0x23 :: back' → front'.length < front.length →
        quotedAt front' = true) →
      (quotedAt front = false ↔ tokenScan front = ⟨false, false⟩) := by
  unfold Agreeable
  refine forall₄_congr fun front back _ _ ↦ ?_
  rw [tokenScan_eq_iff]
  rcases Nat.mod_two_eq_zero_or_one (slips front).length with h | h
  · cases quotedAt front <;> cases oddBackslashes front <;> simp [h]
  · cases quotedAt front <;> cases oddBackslashes front <;> simp [h]

/-- `without_comment` cuts each line of this kind, and no other, where `tokenize` first meets a `#`
that begins a comment. -/
theorem cutsAt_iff_meets_iff (line : Text) : CommentsAgree line ↔ Agreeable line := by
  rw [agreeable_iff]
  constructor
  · intro h front back hline hearlier
    constructor
    · intro hquoted
      exact (meets_iff.mp ((h front).mp (cutsAt_iff.mpr ⟨⟨back, hline⟩, hquoted, hearlier⟩)).1).2
    · intro hscan
      -- the first `#` that `tokenize` meets is where the cut is, and no cut is before this one
      obtain ⟨first, hfirst, hshortest⟩ := exists_shortest (meets_iff.mpr ⟨⟨back, hline⟩, hscan⟩)
      obtain ⟨⟨after, hafter⟩, hunquoted, -⟩ := cutsAt_iff.mp ((h first).mpr ⟨hfirst, hshortest⟩)
      have hle := hshortest front (meets_iff.mpr ⟨⟨back, hline⟩, hscan⟩)
      rcases Nat.lt_or_eq_of_le hle with hlt | heq
      · rw [hearlier first after hafter hlt] at hunquoted
        exact nomatch hunquoted
      · rwa [← (List.append_inj (hafter.symm.trans hline) heq).1]
  · intro h front
    constructor
    · intro hcut
      obtain ⟨⟨back, hline⟩, hquoted, hearlier⟩ := cutsAt_iff.mp hcut
      refine ⟨meets_iff.mpr ⟨⟨back, hline⟩, (h front back hline hearlier).mp hquoted⟩, ?_⟩
      intro front' hmeets
      by_contra hlt
      rw [Nat.not_le] at hlt
      obtain ⟨⟨back', hline'⟩, hscan⟩ := meets_iff.mp hmeets
      have hunquoted := (h front' back' hline' fun earlier after hafter hshorter ↦
        hearlier earlier after hafter (hshorter.trans hlt)).mpr hscan
      rw [hearlier front' back' hline' hlt] at hunquoted
      exact nomatch hunquoted
    · rintro ⟨hmeets, hshortest⟩
      obtain ⟨⟨back, hline⟩, hscan⟩ := meets_iff.mp hmeets
      -- had a `#` before this one been outside quotes, `tokenize` would have met the first of them
      have hearlier : ∀ front' back', line = front' ++ 0x23 :: back' →
          front'.length < front.length → quotedAt front' = true := by
        intro front' back' hline' hlt
        by_contra hquoted
        rw [Bool.not_eq_true] at hquoted
        obtain ⟨first, after, hafter, hunquoted, hle, hbefore⟩ := exists_first hline' hquoted
        have hfirst := (h first after hafter hbefore).mp hunquoted
        have hle' := hshortest first (meets_iff.mpr ⟨⟨after, hafter⟩, hfirst⟩)
        omega
      exact cutsAt_iff.mpr ⟨⟨back, hline⟩, (h front back hline hearlier).mpr hscan, hearlier⟩

/-- A `"` escaped outside quotes opens quotes for `without_comment` only. -/
theorem not_commentsAgree_escaped_quote : ¬ CommentsAgree (literal "send a\\\"b #c") := by
  intro h
  have hmeets : Meets (literal "send a\\\"b #c") (literal "send a\\\"b ") :=
    meets_iff.mpr ⟨⟨literal "c", by decide +kernel⟩,
      Scan.ext (by decide +kernel) (by decide +kernel)⟩
  obtain ⟨first, hfirst, hshortest⟩ := exists_shortest hmeets
  obtain ⟨hcut, back, hline⟩ := (h first).mpr ⟨hfirst, hshortest⟩
  -- nothing is cut
  have hkept : withoutComment (literal "send a\\\"b #c") = literal "send a\\\"b #c" := by
    decide +kernel
  have hlength := congrArg List.length (hcut.symm.trans (hkept.trans hline))
  rw [List.length_append, List.length_cons] at hlength
  omega

end Skan.Detect.ServiceDb
