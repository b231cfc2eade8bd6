import MarkedShader.Proofs.Source.Regions

/-! Where a pass ends. The brace that closes the first opening one is a matter of characters, read
in order; a pass is ended by the totals of whole lines. The two agree where the first brace opens
before anything closes, and closes on a later line that opens nothing more after it. -/
namespace MarkedShader.Source
open Text

/-- A text that closes every brace it opens, and no other one. -/
inductive Balanced : Text → Prop
  | nil : Balanced []
  | other {c : Char} {t : Text} (opens : c ≠ '\x7b') (closes : c ≠ '\x7d') (rest : Balanced t) :
      Balanced (c :: t)
  | braces {inner t : Text} (within : Balanced inner) (rest : Balanced t) :
      Balanced ('\x7b' :: (inner ++ '\x7d' :: t))

/-- Opening minus closing braces. -/
def depth (t : Text) : Int := t.count '\x7b' - t.count '\x7d'

@[simp] lemma depth_nil : depth [] = 0 := rfl

@[simp] lemma depth_append (t u : Text) : depth (t ++ u) = depth t + depth u := by
  simp only [depth, List.count_append]
  omega

@[simp] lemma depth_opens (t : Text) : depth ('\x7b' :: t) = depth t + 1 := by
  simp [depth]
  omega

@[simp] lemma depth_closes (t : Text) : depth ('\x7d' :: t) = depth t - 1 := by
  simp [depth]
  omega

lemma depth_other {c : Char} (opens : c ≠ '\x7b') (closes : c ≠ '\x7d') (t : Text) :
    depth (c :: t) = depth t := by
  simp [depth, opens, closes]

lemma depth_of_not_mem {t : Text} (opens : '\x7b' ∉ t) : depth t ≤ 0 := by
  rw [depth, List.count_eq_zero.mpr opens]
  omega

lemma Balanced.depth_eq {t : Text} (h : Balanced t) : depth t = 0 := by
  induction h with
  | nil => rfl
  | other opens closes _ ih => rw [depth_other opens closes, ih]
  | braces _ _ hinner hrest =>
    simp [hinner, hrest]

lemma Balanced.of_not_mem {t : Text} (opens : '\x7b' ∉ t) (closes : '\x7d' ∉ t) : Balanced t := by
  induction t with
  | nil => exact .nil
  | cons c t ih =>
    rw [List.mem_cons, not_or] at opens closes
    exact .other (Ne.symm opens.1) (Ne.symm closes.1) (ih opens.2 closes.2)

/-- A text that closes more than it opens comes, after a balanced beginning, to a brace that nothing
in it has opened. -/
lemma exists_balanced_of_depth_neg {t : Text} (h : depth t < 0) :
    ∃ inner after, Balanced inner ∧ t = inner ++ '\x7d' :: after := by
  induction hn : t.length using Nat.strong_induction_on generalizing t with
  | _ n ih =>
    subst hn
    cases t with
    | nil => exact absurd h (by simp)
    | cons c t =>
      by_cases hclose : c = '\x7d'
      · subst hclose
        exact ⟨[], t, .nil, rfl⟩
      by_cases hopen : c = '\x7b'
      · subst hopen
        rw [depth_opens] at h
        obtain ⟨inner, after, hinner, rfl⟩ := ih t.length (by simp) (t := t) (by omega) rfl
        rw [depth_append, depth_closes, hinner.depth_eq] at h
        obtain ⟨more, rest, hmore, rfl⟩ :=
          ih after.length (by simp; omega) (t := after) (by omega) rfl
        exact ⟨_, rest, .braces hinner hmore, by simp⟩
      · rw [depth_other hopen hclose] at h
        obtain ⟨inner, after, hinner, rfl⟩ := ih t.length (by simp) h rfl
        exact ⟨c :: inner, after, .other hopen hclose hinner, rfl⟩

/-- In the text the first opening brace is closed. -/
def ClosesFirst (t : Text) : Prop :=
  ∃ before inner after, '\x7b' ∉ before ∧ Balanced inner ∧
    t = before ++ '\x7b' :: (inner ++ '\x7d' :: after)

lemma ClosesFirst.mono {t u : Text} (h : ClosesFirst t) (hp : t <+: u) : ClosesFirst u := by
  obtain ⟨before, inner, after, hbefore, hinner, rfl⟩ := h
  obtain ⟨more, rfl⟩ := hp
  exact ⟨before, inner, after ++ more, hbefore, hinner, by simp⟩

/-- No brace closes before the first one opens. -/
def OpensFirst (t : Text) : Prop := '\x7d' ∉ t.takeWhile (· != '\x7b')

instance (t : Text) : Decidable (OpensFirst t) := inferInstanceAs (Decidable (_ ∉ _))

lemma OpensFirst.mono {t u : Text} (h : OpensFirst u) (hp : t <+: u) : OpensFirst t := by
  obtain ⟨more, rfl⟩ := hp
  refine fun hm => h ?_
  rw [List.takeWhile_append]
  split_ifs with hall
  · exact List.mem_append_left _ (List.takeWhile_prefix _ |>.subset hm)
  · exact hm

/-- Until the first brace is closed, more braces are open than before it. -/
lemma depth_pos {t : Text} (h : OpensFirst t) (opens : '\x7b' ∈ t)
    (unclosed : ¬ ClosesFirst t) : 0 < depth t := by
  obtain ⟨before, rest, rfl, hbefore⟩ := List.eq_append_cons_of_mem opens
  have hlead : (before ++ '\x7b' :: rest).takeWhile (· != '\x7b') = before := by
    have hne : ∀ c ∈ before, (c != '\x7b') = true :=
      fun c hc => bne_iff_ne.mpr fun (he : c = '\x7b') => hbefore (he ▸ hc)
    rw [List.takeWhile_append_of_pos hne]
    simp
  have hzero : depth before = 0 := by
    rw [OpensFirst, hlead] at h
    rw [depth, List.count_eq_zero.mpr hbefore, List.count_eq_zero.mpr h]
    rfl
  rw [depth_append, depth_opens, hzero]
  by_contra hneg
  obtain ⟨inner, after, hinner, rfl⟩ := exists_balanced_of_depth_neg (t := rest) (by omega)
  exact unclosed ⟨before, inner, after, hbefore, hinner, rfl⟩

/-- What the lines hold outside their comments. -/
def code (ls : List Text) : Text := ls.flatMap beforeComment

/-- The line that holds the brace closing the first opening one. -/
structure ClosesAt (ls : List Text) (n : Nat) : Prop where
  before : ¬ ClosesFirst (code (ls.take n))
  after : ClosesFirst (code (ls.take (n+1)))

/-- Opening minus closing braces up to the end of a line. -/
def depthAfter (ls : List Text) (n : Nat) : Int := depth (code (ls.take (n+1)))

/-- The line at which the totals of lines say that the braces are closed: the first that does not
end deeper than the lines began, after one that did. -/
structure ShowsAt (ls : List Text) (n : Nat) : Prop where
  opened : ∃ k < n, 0 < depthAfter ls k
  closed : depthAfter ls n ≤ 0
  first : ∀ k k', k < k' → k' < n → 0 < depthAfter ls k → 0 < depthAfter ls k'

lemma code_take_mono {ls : List Text} {m n : Nat} (h : m ≤ n) :
    code (ls.take m) <+: code (ls.take n) := by
  obtain ⟨d, rfl⟩ := Nat.exists_eq_add_of_le h
  rw [List.take_add, code, code, List.flatMap_append]
  exact List.prefix_append _ _

lemma code_take_sub (ls : List Text) (n : Nat) : code (ls.take n) <+: code ls := by
  obtain ⟨more, hmore⟩ := List.take_prefix n ls
  exact ⟨code more, by rw [code, code, ← List.flatMap_append, hmore, code]⟩

lemma depthAfter_of_length_le {ls : List Text} {n : Nat} (h : ls.length ≤ n + 1) :
    depthAfter ls n = depth (code ls) := by
  rw [depthAfter, List.take_of_length_le h]

@[simp] lemma depthAfter_zero (l : Text) (ls : List Text) :
    depthAfter (l :: ls) 0 = braceDelta l := by
  simp only [depthAfter, code, Nat.zero_add, List.take_succ_cons, List.take_zero, List.flatMap_cons,
    List.flatMap_nil, List.append_nil]
  rfl

@[simp] lemma depthAfter_succ (l : Text) (ls : List Text) (n : Nat) :
    depthAfter (l :: ls) (n+1) = braceDelta l + depthAfter ls n := by
  simp only [depthAfter, code, List.take_succ_cons, List.flatMap_cons, depth_append]
  rfl

lemma ShowsAt.lt_length {ls : List Text} {n : Nat} (h : ShowsAt ls n) : n < ls.length := by
  by_contra hle
  obtain ⟨k, hk, hopened⟩ := h.opened
  have hn := h.closed
  rw [depthAfter_of_length_le (by omega)] at hn
  -- the last line ends as deep as all lines do, and so does every place behind it
  have hlast : depthAfter ls (ls.length-1) = depth (code ls) := depthAfter_of_length_le (by omega)
  by_cases hlt : k < ls.length-1
  · have := h.first k (ls.length-1) hlt (by omega) hopened
    omega
  · rw [depthAfter_of_length_le (by omega)] at hopened
    omega

/-- A line that ends no deeper than the lines began, if they have been deeper. -/
def Ends (before : Int) (opened : Prop) (ls : List Text) (n : Nat) : Prop :=
  (opened ∨ ∃ k ≤ n, 0 < before + depthAfter ls k) ∧ before + depthAfter ls n ≤ 0

lemma ends_zero {before : Int} {opened : Prop} {l : Text} {ls : List Text} :
    Ends before opened (l :: ls) 0 ↔
    (opened ∨ 0 < before + braceDelta l) ∧ before + braceDelta l ≤ 0 := by
  simp [Ends]

lemma ends_succ {before : Int} {opened : Prop} {l : Text} {ls : List Text} {n : Nat} :
    Ends before opened (l :: ls) (n+1) ↔
      Ends (before + braceDelta l) (opened ∨ 0 < before + braceDelta l) ls n := by
  have hopened : (∃ k ≤ n+1, 0 < before + depthAfter (l :: ls) k) ↔
      0 < before + braceDelta l ∨ ∃ k ≤ n, 0 < before + braceDelta l + depthAfter ls k := by
    constructor
    · rintro ⟨k, hk, hpos⟩
      cases k with
      | zero => exact .inl (by simpa using hpos)
      | succ k => exact .inr ⟨k, by omega, by rw [depthAfter_succ] at hpos; omega⟩
    · rintro (hpos | ⟨k, hk, hpos⟩)
      · exact ⟨0, by omega, by simpa using hpos⟩
      · exact ⟨k+1, by omega, by rw [depthAfter_succ]; omega⟩
  rw [Ends, Ends, hopened, depthAfter_succ, or_assoc, Int.add_assoc]

lemma closingLine?_eq_some_iff {before : Int} {opened : Bool} {ls : List Text} {n : Nat} :
    closingLine? before opened ls = some n ↔
      n < ls.length ∧ Ends before (opened = true) ls n ∧
        ∀ k < n, ¬ Ends before (opened = true) ls k := by
  induction ls generalizing before opened n with
  | nil => simp [closingLine?]
  | cons l ls ih =>
    have hhere : ((opened || decide (0 < before + braceDelta l)) &&
        decide (before + braceDelta l ≤ 0)) = true ↔
        Ends before (opened = true) (l :: ls) 0 := by
      rw [ends_zero, Bool.and_eq_true, Bool.or_eq_true, decide_eq_true_eq, decide_eq_true_eq]
    have hafter : ∀ k,
        Ends (before + braceDelta l) ((opened || decide (0 < before + braceDelta l)) = true) ls k ↔
        Ends before (opened = true) (l :: ls) (k+1) := by
      intro k
      rw [ends_succ, Bool.or_eq_true, decide_eq_true_eq]
    simp only [closingLine?]
    split_ifs with htotals
    · have hends := hhere.mp htotals
      constructor
      · intro h
        cases h
        exact ⟨by simp, hends, fun k hk => absurd hk (by omega)⟩
      · rintro ⟨-, -, hfirst⟩
        cases n with
        | zero => rfl
        | succ n => exact absurd hends (hfirst 0 (by omega))
    · have hends := mt hhere.mpr htotals
      rw [Option.map_eq_some_iff]
      constructor
      · rintro ⟨m, hm, rfl⟩
        obtain ⟨hlt, hm, hfirst⟩ := ih.mp hm
        refine ⟨by simpa using hlt, (hafter m).mp hm, fun k hk => ?_⟩
        cases k with
        | zero => exact hends
        | succ k => exact fun h => hfirst k (by omega) ((hafter k).mpr h)
      · rintro ⟨hlt, hm, hfirst⟩
        cases n with
        | zero => exact absurd hm hends
        | succ n =>
          refine ⟨n, ih.mpr ⟨by simpa using hlt, (hafter n).mpr hm, fun k hk h => ?_⟩, rfl⟩
          exact hfirst (k+1) (by omega) ((hafter k).mp h)

/-- A pass is ended by the totals of its lines. -/
lemma closingLine?_eq_some_iff_showsAt {ls : List Text} {n : Nat} :
    closingLine? 0 false ls = some n ↔ ShowsAt ls n := by
  have hends :
      ∀ k, Ends 0 (false = true) ls k ↔ (∃ j ≤ k, 0 < depthAfter ls j) ∧ depthAfter ls k ≤ 0 := by
    intro k
    simp [Ends]
  simp only [closingLine?_eq_some_iff, hends]
  constructor
  · rintro ⟨-, ⟨⟨k, hk, hopened⟩, hclosed⟩, hfirst⟩
    have hne : k ≠ n := by
      rintro rfl
      omega
    refine ⟨⟨k, by omega, hopened⟩, hclosed, fun j j' hj hj' hpos => ?_⟩
    by_contra hle
    exact hfirst j' hj' ⟨⟨j, by omega, hpos⟩, by omega⟩
  · intro h
    obtain ⟨k, hk, hopened⟩ := h.opened
    refine ⟨h.lt_length, ⟨⟨k, by omega, hopened⟩, h.closed⟩, ?_⟩
    rintro j hj ⟨⟨i, hi, hpos⟩, hclosed⟩
    have hne : i ≠ j := by
      rintro rfl
      omega
    have := h.first i j (by omega) hj hpos
    omega

lemma pos_of_depthAfter {ls : List Text} {n : Nat} (h : 0 < depthAfter ls n) :
    '\x7b' ∈ code (ls.take (n+1)) := by
  by_contra hnot
  have := depth_of_not_mem hnot
  rw [depthAfter] at h
  omega

/-- Until the first brace is closed, the totals of lines tell whether it is open. -/
lemma depthAfter_pos_iff {ls : List Text} (h : OpensFirst (code ls)) {n : Nat}
    (unclosed : ¬ ClosesFirst (code (ls.take (n+1)))) :
    0 < depthAfter ls n ↔ '\x7b' ∈ code (ls.take (n+1)) :=
  ⟨pos_of_depthAfter, fun opens => depth_pos (h.mono (code_take_sub ls (n+1))) opens unclosed⟩

/-- The totals of lines show where the first brace is closed if it has been opened on a line before
and the line with the closing brace does not open more than it closes after it. -/
lemma showsAt_iff_of_closesAt {ls : List Text} (h : OpensFirst (code ls)) {n : Nat}
    (hn : ClosesAt ls n) : ShowsAt ls n ↔ '\x7b' ∈ code (ls.take n) ∧ depthAfter ls n ≤ 0 := by
  have hopen : ∀ k < n, 0 < depthAfter ls k ↔ '\x7b' ∈ code (ls.take (k+1)) := fun k hk =>
    depthAfter_pos_iff h fun hc => hn.before (hc.mono (code_take_mono (by omega)))
  constructor
  · intro hs
    obtain ⟨k, hk, hpos⟩ := hs.opened
    exact ⟨(code_take_mono (by omega)).subset (pos_of_depthAfter hpos), hs.closed⟩
  · rintro ⟨hmem, hclosed⟩
    cases n with
    | zero => exact absurd hmem (by simp [code])
    | succ n =>
      refine ⟨⟨n, by omega, (hopen n (by omega)).mpr hmem⟩, hclosed, fun k k' hk hk' hpos => ?_⟩
      exact (hopen k' hk').mpr ((code_take_mono (by omega)).subset (pos_of_depthAfter hpos))

lemma not_showsAt_of_not_closesFirst {ls : List Text} (h : OpensFirst (code ls))
    (hnone : ∀ n, ¬ ClosesAt ls n) (n : Nat) : ¬ ShowsAt ls n := by
  have hunclosed : ∀ k, ¬ ClosesFirst (code (ls.take k)) := by
    intro k
    induction k with
    | zero =>
      rintro ⟨before, inner, after, -, -, heq⟩
      exact absurd heq.symm (by simp [code])
    | succ k ih => exact fun hc => hnone k ⟨ih, hc⟩
  intro hs
  obtain ⟨k, hk, hpos⟩ := hs.opened
  have := (depthAfter_pos_iff h (hunclosed (n+1))).mpr
    ((code_take_mono (by omega)).subset (pos_of_depthAfter hpos))
  have := hs.closed
  omega

/-- How often a pass that begins at a line is said not to be closed. -/
def unclosedAt (first : Nat) (ws : List Warning) : Nat := ws.count ⟨first, .passNotClosed⟩

/-- The pass ends at a line and is not said to be unclosed. -/
def Extent.EndsAt (e : Extent) (ws : List Warning) (last : Nat) : Prop :=
  e.last = last ∧ unclosedAt e.first ws = 0

/-- The pass goes on to the last of all lines, which is said once. -/
def Extent.RunsOut (e : Extent) (ws : List Warning) (total : Nat) : Prop :=
  e.last+1 = total ∧ unclosedAt e.first ws = 1

/-- The pass ends where its lines are said to close, and runs out if they never do. -/
structure Extent.EndsWhere (closes : List Text → Nat → Prop) (ls : List Text) (ws : List Warning)
    (e : Extent) : Prop where
  closed : ∀ n, closes (ls.drop e.first) n → e.EndsAt ws (e.first+n)
  unclosed : (∀ n, ¬ closes (ls.drop e.first) n) → e.RunsOut ws ls.length

lemma Extent.EndsAt.not_runsOut {e : Extent} {ws : List Warning} {last total : Nat}
    (h : e.EndsAt ws last) : ¬ e.RunsOut ws total := by
  rintro ⟨-, hone⟩
  rw [h.2] at hone
  contradiction

lemma extentsFrom_warnings (i : Nat) (ls : List Text) : ∀ w ∈ (extentsFrom i ls).2, i ≤ w.line := by
  induction i, ls using extentsFrom.induct with
  | case1 i => simp [extentsFrom]
  | case2 i l ls path huse found ws hrest ih =>
    rw [extentsFrom_reference huse]
    exact fun w hw => (Nat.le_succ i).trans (ih w hw)
  | case3 i l ls huse hopens n hclosing found ws hrest ih =>
    rw [extentsFrom_closed huse hopens hclosing]
    intro w hw
    have := ih w hw
    omega
  | case4 i l ls huse hopens hclosing =>
    rw [extentsFrom_unclosed huse hopens hclosing]
    simp
  | case5 i l ls huse hopens ih =>
    rw [extentsFrom_other huse hopens]
    exact fun w hw => (Nat.le_succ i).trans (ih w hw)

lemma unclosedAt_of_lt {first i : Nat} (h : first < i) (ls : List Text) :
    unclosedAt first (extentsFrom i ls).2 = 0 :=
  List.count_eq_zero.mpr fun hmem => absurd (extentsFrom_warnings i ls _ hmem) (Nat.not_le.mpr h)

lemma Extent.EndsWhere.closes {closes : List Text → Nat → Prop} {ls : List Text} {ws : List Warning}
    {e : Extent} (h : e.EndsWhere closes ls ws) {n : Nat} (hn : e.EndsAt ws (e.first+n)) :
    closes (ls.drop e.first) n := by
  by_contra hnot
  by_cases hnone : ∀ m, ¬ closes (ls.drop e.first) m
  · exact hn.not_runsOut (h.unclosed hnone)
  · obtain ⟨m, hm⟩ := not_forall_not.mp hnone
    have hlast := (h.closed m hm).1.symm.trans hn.1
    exact hnot (Nat.add_left_cancel hlast ▸ hm)

lemma closingLine?_eq_none_iff {ls : List Text} :
    closingLine? 0 false ls = none ↔ ∀ n, ¬ ShowsAt ls n := by
  simp only [Option.eq_none_iff_forall_ne_some, ne_eq, closingLine?_eq_some_iff_showsAt]

/-- Every pass ends by the totals of its lines. The warnings about later passes are about later
lines. -/
lemma extentsFrom_endsWhere {all : List Text} {i : Nat} {ls : List Text} (h : ls = all.drop i) :
    ∀ e ∈ (extentsFrom i ls).1, e.usePath = none →
      e.EndsWhere ShowsAt all (extentsFrom i ls).2 := by
  have hnext : ∀ {i l ls}, l :: ls = all.drop i → ∀ n, ls.drop n = all.drop (i+n+1) := by
    intro i l ls h n
    rw [Nat.add_right_comm, ← List.drop_drop, ← List.drop_drop, ← h, List.drop_one, List.tail_cons]
  induction i, ls using extentsFrom.induct with
  | case1 i => simp [extentsFrom]
  | case2 i l ls path huse found ws hrest ih =>
    rw [extentsFrom_reference huse]
    intro e he hnone
    rcases List.mem_cons.mp he with rfl | he
    · contradiction
    · exact ih (hnext h 0) e he hnone
  | case3 i l ls huse hopens n hclosing found ws hrest ih =>
    rw [extentsFrom_closed huse hopens hclosing]
    intro e he hnone
    rcases List.mem_cons.mp he with rfl | he
    · have hshows := closingLine?_eq_some_iff_showsAt.mp hclosing
      have hsaid := unclosedAt_of_lt (show i < i+n+1 by omega) (ls.drop n)
      refine ⟨fun m hm => ⟨?_, hsaid⟩, fun hnever => absurd (h ▸ hshows) (hnever n)⟩
      rw [← h, ← closingLine?_eq_some_iff_showsAt, hclosing] at hm
      rw [Option.some.inj hm]
    · exact ih (hnext h n) e he hnone
  | case4 i l ls huse hopens hclosing =>
    rw [extentsFrom_unclosed huse hopens hclosing]
    intro e he hnone
    have hnever := closingLine?_eq_none_iff.mp hclosing
    have hlength := congrArg List.length h
    rw [List.length_cons, List.length_drop] at hlength
    rw [List.mem_singleton.mp he]
    refine ⟨fun n hn => absurd (h ▸ hn) (hnever n), fun _ => ⟨?_, ?_⟩⟩
    · simp only
      omega
    · simp [unclosedAt]
  | case5 i l ls huse hopens ih =>
    rw [extentsFrom_other huse hopens]
    exact ih (hnext h 0)

/-- A pass ends by the totals of its lines. If nothing closes before its first brace opens, it ends
at the brace that closes the first one exactly if that is on a later line than the first, and on one
that leaves no more braces open than there were. -/
theorem extents_endsWhere (ls : List Text) {e : Extent} (he : e ∈ (extents ls).1)
    (hpass : e.usePath = none) : e.EndsWhere ShowsAt ls (extents ls).2 ∧
      (OpensFirst (code (ls.drop e.first)) → (e.EndsWhere ClosesAt ls (extents ls).2 ↔
        ∀ n, ClosesAt (ls.drop e.first) n →
          '\x7b' ∈ code ((ls.drop e.first).take n) ∧ depthAfter (ls.drop e.first) n ≤ 0)) := by
  have htotals : e.EndsWhere ShowsAt ls (extents ls).2 := extentsFrom_endsWhere rfl e he hpass
  refine ⟨htotals,
    fun hopens => ⟨fun hbrace n hn => ?_, fun hlater => ⟨fun n hn => ?_, fun hnever => ?_⟩⟩⟩
  · exact (showsAt_iff_of_closesAt hopens hn).mp (htotals.closes (hbrace.closed n hn))
  · exact htotals.closed n ((showsAt_iff_of_closesAt hopens hn).mpr (hlater n hn))
  · exact htotals.unclosed (not_showsAt_of_not_closesFirst hopens hnever)

/-- A pass on one line, and a pass below it. -/
def oneLinePass : List Text := ["Shader \"A/B\" \x7b".toList, "    SubShader \x7b".toList,
  "        Pass \x7b Name \"A\" \x7d".toList, "        Pass \x7b".toList,
  "            Name \"B\"".toList,
  "        \x7d".toList, "    \x7d".toList, ['\x7d']]

/-- A pass that is closed on its first line goes on to the end of the next one. -/
theorem oneLinePass_endsLate :
    ∃ e ∈ (extents oneLinePass).1, e.usePath = none ∧ ClosesAt (oneLinePass.drop e.first) 0 ∧
    e.last = e.first+3 ∧ ¬ e.EndsWhere ClosesAt oneLinePass (extents oneLinePass).2 := by
  have hmem : ⟨2, 5, none⟩ ∈ (extents oneLinePass).1 := by decide +kernel
  have hcloses : ClosesAt (oneLinePass.drop 2) 0 := by
    refine ⟨?_, "        Pass ".toList, " Name \"A\" ".toList, [], by decide,
      .of_not_mem (by decide) (by decide), by decide⟩
    rintro ⟨before, inner, after, -, -, heq⟩
    exact absurd heq.symm (by simp [code])
  refine ⟨_, hmem, rfl, hcloses, rfl, fun hbrace => ?_⟩
  have hlater := ((extents_endsWhere oneLinePass hmem rfl).2 (by decide)).mp hbrace 0 hcloses
  exact absurd hlater.1 (by decide)

end MarkedShader.Source
