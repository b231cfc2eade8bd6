import MarkedShader.Proofs.Source.Reads
import MarkedShader.Proofs.Text.Dedent
import MarkedShader.Writing.Block

/-! Blocks and section labels are read back from the lines they are written in. -/
namespace MarkedShader
open Text

variable {pre margin : Text}

lemma isBlank_of_spaces (hm : ∀ c ∈ margin, c = ' ') : ∀ c ∈ margin, isBlank c :=
  (isMargin_of_spaces hm).isBlank

lemma not_mem_of_spaces (hm : ∀ c ∈ margin, c = ' ') {c : Char} (h : c ≠ ' ') : c ∉ margin :=
  fun hc => h (hm c hc)

lemma Layout.isMargin_margin {indent : Text} (h : IsMargin indent) (level : Nat) :
    IsMargin (Layout.margin indent level) := by
  intro c hc
  obtain ⟨t, ht, hc⟩ := List.mem_flatten.mp hc
  rw [List.eq_of_mem_replicate ht] at hc
  exact h c hc

namespace Source

/-- The margin of a level consists of blanks. -/
theorem isMargin_marginAt (level : Nat) : IsMargin (marginAt level) :=
  isMargin_of_spaces (spaces_marginAt level)

section
variable (hpre : ∀ c ∈ pre, isWord c) (hm : IsMargin margin) {kind : MarkerKind} {body : Text}
include hpre hm

lemma not_mem_marker {c : Char} (hc : isWord c = false) (hne : c ∉ ['/', ' ', '[', ':', ']', '\t'])
    (hb : c ∉ body) : c ∉ margin ++ Marker.format pre kind body := by
  rw [List.mem_append, not_or]
  refine ⟨hm.not_mem ?_, Marker.not_mem_format hpre hc ?_ hb⟩
  · simp only [List.mem_cons, not_or] at hne ⊢
    exact ⟨hne.2.1, hne.2.2.2.2.2⟩
  · simp only [List.mem_cons, not_or] at hne ⊢
    exact ⟨hne.1, hne.2.1, hne.2.2.1, hne.2.2.2.1, hne.2.2.2.2.1, List.not_mem_nil⟩

lemma silent_marker (hk : .property ≠ kind ∧ .global ≠ kind) (hn : '\n' ∉ body)
    (hb : ¬ Marker.opening pre <:+: body) : Silent pre (margin ++ Marker.format pre kind body) where
  isLine := by
    refine ⟨not_mem_marker hpre hm (by decide) (by decide) hn, ?_⟩
    rw [Marker.getLast?_format]
    decide
  noProperty := (Marker.lacks_format hpre hm.isBlank hb hk.1).property?
  noGlobal := (Marker.lacks_format hpre hm.isBlank hb hk.2).global?

lemma braceDelta_marker (ho : '\x7b' ∉ body) (hc : '\x7d' ∉ body) :
    braceDelta (margin ++ Marker.format pre kind body) = 0 :=
  braceDelta_of_not_mem (not_mem_marker hpre hm (by decide) (by decide) ho)
    (not_mem_marker hpre hm (by decide) (by decide) hc)

end

lemma not_mem_inQuotes {t : Text} (h : Quotable pre t) {c : Char} (hc : c ≠ '"') (ht : c ∉ t) :
    c ∉ Marker.inQuotes t := by
  rw [Marker.inQuotes_eq h.quote h.newline]
  simp [hc, ht]

variable {settings : Settings} {s : Progress}

lemma Reads.sectionLabel (hpre : ∀ c ∈ settings.tagPrefix, isWord c) (hm : IsMargin margin)
    {label : Text} (h : Plain settings.tagPrefix label) (hne : label ≠ []) :
    Reads settings s [margin ++ Marker.sectionLabel settings.tagPrefix label]
      (s.enter (.ofLabel label)) := by
  have hb := not_infix_inQuotes hpre h.quotable
  refine .line (fun i c rest hc => ?_) ?_
    (silent_marker hpre hm (by decide) (not_mem_inQuotes h.quotable (by decide) h.newline) hb)
  · have hread := sectionLabel?_sectionLabel hpre hm.isBlank h.quotable hne
    refine ⟨{ c with inSection := .ofLabel label }, ⟨?_, hc.2⟩, ?_⟩
    · rw [Progress.enter, ← hc.1]
      rfl
    · simp only [Content.step, Parts.take?, hread]
  · have : braceDelta (margin ++ Marker.sectionLabel settings.tagPrefix label) = 0 :=
      braceDelta_marker hpre hm (not_mem_inQuotes h.quotable (by decide) h.opens)
        (not_mem_inQuotes h.quotable (by decide) h.closes)
    rw [this, Int.add_zero]
    rfl

/-- Whether the braces that are open never become less than none, line by line, and are none in the
end. -/
def BalancedFrom (depth : Int) : List Text → Prop
  | [] => depth = 0
  | l :: ls => 0 ≤ depth + braceDelta l ∧ BalancedFrom (depth + braceDelta l) ls

instance decidableBalancedFrom (depth : Int) (ls : List Text) : Decidable (BalancedFrom depth ls) :=
  match ls with
  | [] => inferInstanceAs (Decidable (depth = 0))
  | l :: ls =>
    have := decidableBalancedFrom (depth + braceDelta l) ls
    inferInstanceAs (Decidable (_ ∧ _))

lemma BalancedFrom.append {depth : Int} {ls ks : List Text} (hl : BalancedFrom depth ls)
    (hk : BalancedFrom 0 ks) : BalancedFrom depth (ls ++ ks) := by
  induction ls generalizing depth with
  | nil =>
    rw [show depth = 0 from hl]
    exact hk
  | cons l ls ih => exact ⟨hl.1, ih hl.2⟩

/-- Lines that leave the depth as it is. -/
lemma BalancedFrom.after_flat {depth : Int} {ls ks : List Text} (hk : BalancedFrom depth ks)
    (hd : 0 ≤ depth) (h : ∀ l ∈ ls, braceDelta l = 0) : BalancedFrom depth (ls ++ ks) := by
  induction ls with
  | nil => exact hk
  | cons l ls ih =>
    have hl : depth + braceDelta l = depth := by rw [h l List.mem_cons_self, Int.add_zero]
    refine ⟨by omega, ?_⟩
    rw [hl]
    exact ih fun k hk => h k (List.mem_cons_of_mem _ hk)

lemma balancedFrom_of_forall {ls : List Text} (h : ∀ l ∈ ls, braceDelta l = 0) :
    BalancedFrom 0 ls := by
  have hnil : BalancedFrom 0 [] := rfl
  simpa using hnil.after_flat (Int.le_refl 0) h

lemma BalancedFrom.congr {depth : Int} {ls ks : List Text} (h : BalancedFrom depth ls)
    (heq : ks.map braceDelta = ls.map braceDelta) : BalancedFrom depth ks := by
  induction ls generalizing depth ks with
  | nil =>
    rw [List.map_eq_nil_iff.mp heq]
    exact h
  | cons l ls ih =>
    obtain ⟨k, ks, rfl, hk, hks⟩ := List.map_eq_cons_iff.mp heq
    exact ⟨hk ▸ h.1, hk ▸ ih h.2 hks⟩

/-- Balanced lines do not close what is open around them. -/
lemma BalancedFrom.closingLine? {depth : Int} {ls : List Text} (h : BalancedFrom depth ls)
    (around : Nat) (rest : List Text) : closingLine? (around+1+depth) true (ls ++ rest) =
      (closingLine? (around+1) true rest).map (· + ls.length) := by
  induction ls generalizing depth with
  | nil =>
    rw [show depth = 0 from h]
    simp
  | cons l ls ih =>
    obtain ⟨hd, htail⟩ := h
    rw [List.cons_append, Source.closingLine?, Int.add_assoc, if_neg (by simp; omega)]
    simp only [Bool.true_or, ih htail, Option.map_map, List.length_cons]
    congr 1

/-- Lines without braces between one that opens a brace and one that closes it. -/
theorem balancedFrom_braced {first last : Text} {inner : List Text} (opens : braceDelta first = 1)
    (closes : braceDelta last = -1) (flat : ∀ l ∈ inner, braceDelta l = 0) :
    BalancedFrom 0 (first :: inner ++ [last]) := by
  have hlast : BalancedFrom 1 [last] := by
    refine ⟨by omega, ?_⟩
    rw [closes]
    rfl
  refine ⟨by omega, ?_⟩
  rw [opens]
  exact hlast.after_flat (by decide) flat

/-- A walk goes on behind lines that it takes from the first of them. -/
theorem walk_of_step {σ : Type} {step : Nat → σ → Text → List Text → σ × Nat}
    {i : Nat} {c c' : σ} {first last : Text} {inner rest : List Text}
    (h : step i c first (inner ++ last :: rest) = (c', inner.length+1)) :
    walk step i c (first :: inner ++ [last] ++ rest) =
      walk step (i + (first :: inner ++ [last]).length) c' rest := by
  have hdrop : (inner ++ last :: rest).drop (inner.length+1) = rest := by
    rw [List.append_cons, List.drop_left' (by simp)]
  rw [List.cons_append, List.cons_append, walk, List.append_assoc, List.singleton_append, h]
  simp only [hdrop, List.length_cons, List.length_append, List.length_nil]
  congr 1

/-- Balanced lines that are taken in one step, and none of which counts outside its pass. -/
theorem Reads.of_step {t : Progress} {first last : Text} {inner : List Text}
    (step : ∀ i c rest, s.Holds c → ∃ c', t.Holds c' ∧
      Content.step settings i c first (inner ++ last :: rest) = (c', inner.length+1))
    (balanced : BalancedFrom 0 (first :: inner ++ [last])) (depth : t.depth = s.depth)
    (silent : ∀ l ∈ first :: inner ++ [last], Silent settings.tagPrefix l) :
    Reads settings s (first :: inner ++ [last]) t := by
  refine ⟨fun i c rest hc => ?_, fun rest => ?_, silent⟩
  · obtain ⟨c', hc', hstep⟩ := step i c rest hc
    exact ⟨c', hc', walk_of_step hstep⟩
  · rw [depth]
    simpa using balanced.closingLine? s.depth rest

/-- Lines that can stand between the markers of a block, and what is read from them. -/
structure Enclosed (pre : Text) (inner : List Text) (body : Body) : Prop where
  ends : ∀ l ∈ inner, endsBody pre l = false
  read : inner.foldl (Body.take pre) {} = body
  balanced : BalancedFrom 0 inner
  silent : ∀ l ∈ inner, Silent pre l

/-- The block whose body says this much. -/
def Body.toBlock (body : Body) (title : Text) (inSection : Section) : Block :=
  { title, inSection, intent := body.intent, referencedParams := body.params
    isEnabled := !body.disabled
    code := trimBoth (· == '\n') (joinLines (dedentLines body.code)), id := .fresh 0 }

section
variable {inner : List Text} {body : Body} {title : Text}

/-- A block is read up to the first line that can end it. -/
lemma readBlock_closed {stop : Text} (ends : ∀ l ∈ inner, endsBody pre l = false)
    (read : inner.foldl (Body.take pre) {} = body) (hstop : Marker.isBlockEnd pre stop)
    (i : Nat) (title : Text) (inSection : Section) (rest : List Text) :
    readBlock pre i title inSection (inner ++ stop :: rest) =
      ({ body.toBlock title inSection with
          startLine := i, endLine := i + (inner.length+1 : Nat), id := .fresh i },
        inner.length+1, []) := by
  have hinner : ((inner ++ stop :: rest).takeWhile fun l => !endsBody pre l) = inner := by
    rw [List.takeWhile_append_of_pos, List.takeWhile_cons_of_neg, List.append_nil]
    · simp [endsBody, hstop]
    · intro l hl
      simp [ends l hl]
  simp only [Source.readBlock, hinner, read, List.drop_left, List.head?_cons,
    Option.any_some, hstop, if_true]
  rfl

lemma Enclosed.readBlock (h : Enclosed pre inner body) (hpre : ∀ c ∈ pre, isWord c)
    (hm : IsMargin margin) (i : Nat) (title : Text) (inSection : Section) (rest : List Text) :
    ∃ b, readBlock pre i title inSection (inner ++ (margin ++ Marker.blockEnd pre) :: rest) =
      (b, inner.length+1, []) ∧ b.detached = body.toBlock title inSection :=
  ⟨_, readBlock_closed h.ends h.read (isBlockEnd_blockEnd hpre hm.isBlank) i title inSection rest,
    rfl⟩

/-- The walk over a pass takes such lines and the markers around them in one step. -/
lemma Enclosed.step (h : Enclosed settings.tagPrefix inner body)
    (hpre : ∀ c ∈ settings.tagPrefix, isWord c) (hm : IsMargin margin)
    (ht : Plain settings.tagPrefix title) (hne : title ≠ []) (i : Nat) (c : Content)
    (rest : List Text) : ∃ b, b.detached = body.toBlock title c.inSection ∧
      Content.step settings i c (margin ++ Marker.blockStart settings.tagPrefix title)
        (inner ++ (margin ++ Marker.blockEnd settings.tagPrefix) :: rest) =
        ({ c with toParts := c.toParts.addBlock b [] }, inner.length+1) := by
  obtain ⟨b, hread, hb⟩ := h.readBlock hpre hm i title c.inSection rest
  have hlabel : Marker.sectionLabel? settings.tagPrefix
      (margin ++ Marker.blockStart settings.tagPrefix title) = none := by
    rw [Marker.blockStart_eq_format hne]
    exact (Marker.lacks_format hpre hm.isBlank (not_infix_inQuotes hpre ht.quotable)
      (by decide)).sectionLabel?
  refine ⟨b, hb, ?_⟩
  simp only [Content.step, Parts.take?, hlabel,
    blockStart?_blockStart hpre hm.isBlank ht.quotable hne, hread]

/-- The markers around balanced lines hold no brace. -/
lemma Enclosed.balanced_marked (h : Enclosed pre inner body) (hpre : ∀ c ∈ pre, isWord c)
    (hm : IsMargin margin) (ht : Plain pre title) (hne : title ≠ []) :
    BalancedFrom 0
      ((margin ++ Marker.blockStart pre title) :: inner ++ [margin ++ Marker.blockEnd pre]) := by
  have hstart : braceDelta (margin ++ Marker.blockStart pre title) = 0 := by
    rw [Marker.blockStart_eq_format hne]
    exact braceDelta_marker hpre hm (not_mem_inQuotes ht.quotable (by decide) ht.opens)
      (not_mem_inQuotes ht.quotable (by decide) ht.closes)
  have hend : braceDelta (margin ++ Marker.blockEnd pre) = 0 :=
    braceDelta_marker hpre hm List.not_mem_nil List.not_mem_nil
  have hlast : BalancedFrom 0 [margin ++ Marker.blockEnd pre] :=
    balancedFrom_of_forall (by simpa using hend)
  refine ⟨by omega, ?_⟩
  rw [hstart]
  exact h.balanced.append hlast

/-- Such lines and the markers around them are read as a block. -/
lemma Enclosed.reads (h : Enclosed settings.tagPrefix inner body)
    (hpre : ∀ c ∈ settings.tagPrefix, isWord c) (hm : IsMargin margin)
    (ht : Plain settings.tagPrefix title) (hne : title ≠ []) :
    Reads settings s ((margin ++ Marker.blockStart settings.tagPrefix title) :: inner ++
      [margin ++ Marker.blockEnd settings.tagPrefix])
      (s.addBlock (body.toBlock title s.found.inSection)) := by
  refine .of_step (fun i c rest hc => ?_) (h.balanced_marked hpre hm ht hne) rfl
    (List.forall_mem_append.mpr ⟨?_, ?_⟩)
  · obtain ⟨k, hk, hstep⟩ := h.step hpre hm ht hne i c rest
    have hsection : c.inSection = s.found.inSection := congrArg (·.inSection) hc.1
    refine ⟨{ c with toParts := c.toParts.addBlock k [] }, ⟨?_, hc.2⟩, hstep⟩
    rw [← hsection, ← hk, Progress.addBlock, ← hc.1]
    simp [Content.detached, Parts.addBlock]
  · refine List.forall_mem_cons.mpr ⟨?_, h.silent⟩
    rw [Marker.blockStart_eq_format hne]
    exact silent_marker hpre hm (by decide) (not_mem_inQuotes ht.quotable (by decide) ht.newline)
      (not_infix_inQuotes hpre ht.quotable)
  · exact List.forall_mem_singleton.mpr
      (silent_marker hpre hm (by decide) List.not_mem_nil not_infix_nil)

end

/-- The lines of a block between its start and its end. -/
def innerLines (pre margin : Text) (params : List (Text × Text)) (b : Block) : List Text :=
  (Writing.header pre b.intent params b.isEnabled).map (margin ++ ·) ++
    (Writing.body b.isEnabled b.code).map (addMargin margin)

/-- The texts of a block can stand in its markers, and its code holds no marker. -/
structure Markable (pre : Text) (roles : List (Text × Text)) (b : Block) : Prop where
  intent : Quotable pre b.intent
  params : ∀ p ∈ roles, Quotable pre p.1 ∧ p.1 ≠ [] ∧ Quotable pre p.2
  distinct : (roles.map (·.1)).Nodup
  code : ∀ l ∈ codeLines b.code, ¬ Marker.opening pre <:+: l

/-- What makes a block one that is read back from its lines. -/
structure Legible (pre : Text) (roles : List (Text × Text)) (b : Block) : Prop where
  title : Plain pre b.title ∧ b.title ≠ []
  intent : Plain pre b.intent
  params : ∀ p ∈ roles, Plain pre p.1 ∧ p.1 ≠ [] ∧ Plain pre p.2
  distinct : (roles.map (·.1)).Nodup
  code : ∀ l ∈ codeLines b.code, ¬ Marker.opening pre <:+: l
  balanced : b.isEnabled → BalancedFrom 0 (codeLines b.code)

lemma Legible.markable {roles : List (Text × Text)} {b : Block} (h : Legible pre roles b) :
    Markable pre roles b where
  intent := h.intent.quotable
  params p hp := let ⟨hname, hne, hrole⟩ := h.params p hp; ⟨hname.quotable, hne, hrole.quotable⟩
  distinct := h.distinct
  code := h.code

section
variable (hpre : ∀ c ∈ pre, isWord c) (hm : IsMargin margin)
include hpre hm

lemma take_intent {t : Text} (h : Quotable pre t) (body : Body) :
    Body.take pre body (margin ++ Marker.intent pre t) = { body with intent := t } := by
  simp only [Body.take, intent?_intent hpre hm.isBlank h]

lemma take_param {name role : Text} (h : Quotable pre name) (hne : name ≠ [])
    (hr : Quotable pre role) (body : Body) (hnew : name ∉ body.params) :
    Body.take pre body (margin ++ Marker.param pre name role) =
      { body with params := body.params ++ [name] } := by
  have hi : Marker.intent? pre (margin ++ Marker.param pre name role) = none :=
    (Marker.lacks_format hpre hm.isBlank (not_infix_param hpre h hr) (by decide)).intent?
  simp [Body.take, hi, param?_param hpre hm.isBlank h hne hr, hnew]

lemma take_disabled (body : Body) :
    Body.take pre body (margin ++ Marker.disabled pre) = { body with disabled := true } := by
  have hi : Marker.intent? pre (margin ++ Marker.disabled pre) = none :=
    (Marker.lacks_format hpre hm.isBlank not_infix_nil (by decide)).intent?
  have hp : Marker.param? pre (margin ++ Marker.disabled pre) = none :=
    (Marker.lacks_format hpre hm.isBlank not_infix_nil (by decide)).param?
  simp [Body.take, hi, hp, isDisabled_disabled hpre hm.isBlank]

omit hpre hm in
lemma take_code {l : Text} (h : ¬ Marker.opening pre <:+: l) (body : Body) :
    Body.take pre body l =
      { body with code := body.code ++ [if body.disabled then uncomment l else l] } := by
  have hi : Marker.intent? pre l = none := (Marker.lacks_of_not_infix h).intent?
  have hp : Marker.param? pre l = none := (Marker.lacks_of_not_infix h).param?
  have hd : Marker.isDisabled pre l = false := (Marker.lacks_of_not_infix h).isDisabled
  simp [Body.take, hi, hp, hd]

lemma foldl_take_params {params : List (Text × Text)}
    (h : ∀ p ∈ params, Quotable pre p.1 ∧ p.1 ≠ [] ∧ Quotable pre p.2) (body : Body)
    (hn : (body.params ++ params.map (·.1)).Nodup) :
    (params.map fun (name, role) => margin ++ Marker.param pre name role).foldl
      (Body.take pre) body =
      { body with params := body.params ++ params.map (·.1) } := by
  induction params generalizing body with
  | nil => simp
  | cons p ps ih =>
    obtain ⟨hname, hne, hrole⟩ := h p List.mem_cons_self
    have hnew : p.1 ∉ body.params := by
      intro hmem
      exact (List.nodup_append.mp hn).2.2 p.1 hmem p.1 List.mem_cons_self rfl
    rw [List.map_cons, List.foldl_cons, take_param hpre hm hname hne hrole body hnew,
      ih (fun p hp => h p (List.mem_cons_of_mem _ hp)) _ (by simpa using hn)]
    simp

omit hpre hm in
lemma foldl_take_code {ls : List Text} (h : ∀ l ∈ ls, ¬ Marker.opening pre <:+: l) (body : Body) :
    ls.foldl (Body.take pre) body =
      { body with code :=
                    body.code ++ ls.map fun l => if body.disabled then uncomment l else l } := by
  induction ls generalizing body with
  | nil => simp
  | cons l ls ih =>
    rw [List.foldl_cons, take_code (h l List.mem_cons_self),
      ih fun l hl => h l (List.mem_cons_of_mem _ hl)]
    simp

end

lemma takeWhile_margin (hm : IsMargin margin) {t : Text} (stop : ∀ c ∈ t.head?, isBlank c = false) :
    (margin ++ t).takeWhile isBlank = margin := by
  rw [List.takeWhile_append_of_pos hm.isBlank, takeWhile_of_stop stop, List.append_nil]

/-- A comment mark comes off as it was put on. -/
lemma uncomment_commentOut (hm : IsMargin margin) (l : Text) :
    uncomment (addMargin margin (Writing.commentOut l)) = addMargin margin l := by
  have hskip : ∀ t : Text, skipBlanks (margin ++ '/' :: t) = '/' :: t :=
    fun t => skipBlanks_margin hm.isBlank rfl
  by_cases hl : l = []
  · have hmark : addMargin margin (Writing.commentOut l) = margin ++ ['/', '/'] := by
      delta Writing.commentOut
      rw [hl, String.toList_ofList]
      rfl
    have hafter : after? ['/', '/', ' '] ['/', '/'] = none := rfl
    have hstrip : stripEnd ['/', '/'] = ['/', '/'] := rfl
    delta uncomment
    rw [hmark, hskip, String.toList_ofList, String.toList_ofList]
    simp only [hafter]
    simp [hstrip, hl, addMargin]
  · have hmark :
        addMargin margin (Writing.commentOut l) = margin ++ ('/' :: ('/' :: ' ' :: l)) := by
      delta Writing.commentOut
      rw [if_neg (by simpa using hl), String.toList_ofList]
      rfl
    have hafter : after? ['/', '/', ' '] ('/' :: '/' :: ' ' :: l) = some l :=
      after?_append ['/', '/', ' '] l
    delta uncomment
    rw [hmark, hskip, String.toList_ofList, String.toList_ofList]
    have : (margin ++ '/' :: '/' :: ' ' :: l).takeWhile isBlank = margin :=
      takeWhile_margin hm (by simp; rfl)
    simp only [hafter, this]
    rw [addMargin, if_neg (by simpa using hl)]

/-- A margin does not change the balance of the braces. -/
theorem braceDelta_margin (hm : IsMargin margin) (t : Text) :
    braceDelta (margin ++ t) = braceDelta t := by
  induction margin with
  | nil => rfl
  | cons c margin ih =>
    obtain ⟨hc, hrest⟩ := List.forall_mem_cons.mp hm
    have hbefore : beforeComment (c :: (margin ++ t)) = c :: beforeComment (margin ++ t) := by
      rcases hc with rfl | rfl <;> rfl
    have hopens : c ≠ '\x7b' := by rcases hc with rfl | rfl <;> decide
    have hcloses : c ≠ '\x7d' := by rcases hc with rfl | rfl <;> decide
    rw [← ih hrest, List.cons_append, braceDelta, hbefore, List.count_cons_of_ne hopens,
      List.count_cons_of_ne hcloses]
    rfl

lemma braceDelta_addMargin (hm : IsMargin margin) (l : Text) :
    braceDelta (addMargin margin l) = braceDelta l := by
  rw [addMargin]
  split_ifs with h
  · rw [List.isEmpty_iff.mp h]
  · exact braceDelta_margin hm l

lemma commentOut_eq (l : Text) :
    Writing.commentOut l = '/' :: '/' :: if l.isEmpty then [] else ' ' :: l := by
  delta Writing.commentOut
  rw [String.toList_ofList, String.toList_ofList]
  split_ifs <;> rfl

lemma braceDelta_commentOut (l : Text) : braceDelta (Writing.commentOut l) = 0 := by
  rw [commentOut_eq]
  rfl

lemma isLine_addMargin (hm : IsMargin margin) {l : Text} (h : IsLine l) :
    IsLine (addMargin margin l) := by
  rw [addMargin]
  split_ifs with he
  · exact ⟨List.not_mem_nil, by simp⟩
  · refine ⟨?_, ?_⟩
    · rw [List.mem_append, not_or]
      exact ⟨hm.not_mem (by decide), h.1⟩
    · rw [List.getLast?_append_of_ne_nil _ (by simpa using he)]
      exact h.2

lemma isLine_commentOut {l : Text} (h : IsLine l) : IsLine (Writing.commentOut l) := by
  rw [commentOut_eq]
  split_ifs with he
  · exact ⟨by decide, by decide⟩
  · refine ⟨by simpa using h.1, ?_⟩
    rw [show '/' :: '/' :: ' ' :: l = ['/', '/', ' '] ++ l from rfl,
      List.getLast?_append_of_ne_nil _ (by simpa using he)]
    exact h.2

/-- What is true of the lines of dedented code, also as comments, is true of those of a body. -/
lemma forall_mem_body {holds : Text → Prop} {isEnabled : Bool} {code : Text}
    (h : ∀ l ∈ codeLines code, holds l) (comment : ∀ l, holds l → holds (Writing.commentOut l)) :
    ∀ l ∈ Writing.body isEnabled code, holds l := by
  intro l hl
  unfold Writing.body at hl
  split_ifs at hl
  · exact h l hl
  · obtain ⟨k, hk, rfl⟩ := List.mem_map.mp hl
    exact comment k (h k hk)

lemma not_infix_commentOut {l : Text} (h : ¬ Marker.opening pre <:+: l) :
    ¬ Marker.opening pre <:+: Writing.commentOut l := by
  rw [commentOut_eq]
  split_ifs
  · exact not_infix_of_not_mem (by decide)
  · exact not_infix_append (a := ['/', '/', ' ']) (by decide) h

lemma not_infix_addMargin (hm : IsMargin margin) {l : Text} (h : ¬ Marker.opening pre <:+: l) :
    ¬ Marker.opening pre <:+: addMargin margin l := by
  rw [addMargin]
  split_ifs
  · exact not_infix_nil
  · exact not_infix_append (hm.not_mem (by decide)) h

variable {roles : List (Text × Text)} {b : Block}

/-- No text of a header holds a character. -/
def HeaderLacks (c : Char) (roles : List (Text × Text)) (b : Block) : Prop :=
  c ∉ b.intent ∧ ∀ p ∈ roles, c ∉ p.1 ∧ c ∉ p.2

/-- A header line holds one of three markers. -/
lemma forall_mem_header {holds : Text → Prop} (h : Markable pre roles b)
    (hpre : ∀ c ∈ pre, isWord c)
    (marker : ∀ kind ∈ [MarkerKind.intent, .param, .disabled], ∀ body,
      ¬ Marker.opening pre <:+: body →
      (∀ c, c ≠ '"' → c ∉ " role=".toList → HeaderLacks c roles b → c ∉ body) →
      holds (margin ++ Marker.format pre kind body)) :
    ∀ l ∈ (Writing.header pre b.intent roles b.isEnabled).map (margin ++ ·), holds l := by
  intro l hl
  obtain ⟨k, hk, rfl⟩ := List.mem_map.mp hl
  simp only [Writing.header, List.mem_append] at hk
  rcases hk with (hk | hk) | hk
  · split_ifs at hk
    · contradiction
    · rw [List.mem_singleton.mp hk]
      exact marker .intent (by decide) _ (not_infix_inQuotes hpre h.intent)
        fun c hc _ lacks => not_mem_inQuotes h.intent hc lacks.1
  · obtain ⟨p, hp, rfl⟩ := List.mem_map.mp hk
    obtain ⟨hname, -, hrole⟩ := h.params p hp
    refine marker .param (by decide) _ (not_infix_param hpre hname hrole) fun c hc hlit lacks => ?_
    simp only [List.mem_append, not_or]
    exact ⟨⟨not_mem_inQuotes hname hc (lacks.2 p hp).1, hlit⟩,
      not_mem_inQuotes hrole hc (lacks.2 p hp).2⟩
  · split_ifs at hk
    · contradiction
    · rw [List.mem_singleton.mp hk]
      exact marker .disabled (by decide) _ not_infix_nil fun _ _ _ _ => List.not_mem_nil

lemma Markable.lacks_newline (h : Markable pre roles b) : HeaderLacks '\n' roles b :=
  ⟨h.intent.newline, fun p hp => ⟨(h.params p hp).1.newline, (h.params p hp).2.2.newline⟩⟩

lemma not_infix_body (h : Markable pre roles b) (hm : IsMargin margin) :
    ∀ l ∈ (Writing.body b.isEnabled b.code).map (addMargin margin), ¬ Marker.opening pre <:+:
      l := by
  intro l hl
  obtain ⟨k, hk, rfl⟩ := List.mem_map.mp hl
  exact not_infix_addMargin hm (forall_mem_body h.code (fun _ => not_infix_commentOut) k hk)

section
variable (h : Markable pre roles b) (hpre : ∀ c ∈ pre, isWord c) (hm : IsMargin margin)
include h hpre hm

lemma endsBody_inner : ∀ l ∈ innerLines pre margin roles b, endsBody pre l = false := by
  intro l hl
  have hheader : ∀ l ∈ (Writing.header pre b.intent roles b.isEnabled).map (margin ++ ·),
      Marker.Lacks pre .blockEnd l ∧ Marker.Lacks pre .blockStart l := by
    refine forall_mem_header h hpre fun kind hk body hb _ => ⟨?_, ?_⟩
    · refine Marker.lacks_format hpre hm.isBlank hb ?_
      rintro rfl
      exact absurd hk (by decide)
    · refine Marker.lacks_format hpre hm.isBlank hb ?_
      rintro rfl
      exact absurd hk (by decide)
  have hlacks : Marker.Lacks pre .blockEnd l ∧ Marker.Lacks pre .blockStart l := by
    rcases List.mem_append.mp hl with hl | hl
    · exact hheader l hl
    · have hfree := not_infix_body h hm l hl
      exact ⟨Marker.lacks_of_not_infix hfree, Marker.lacks_of_not_infix hfree⟩
  simp [endsBody, hlacks.1.isBlockEnd, hlacks.2.blockStart?]

/-- What the lines inside a block say of it. -/
lemma foldl_take_inner : (innerLines pre margin roles b).foldl (Body.take pre) {} =
    { intent := b.intent, params := roles.map (·.1), disabled := !b.isEnabled
      code := (codeLines b.code).map (addMargin margin) } := by
  have hintent :
      ((if b.intent.isEmpty then [] else [Marker.intent pre b.intent]).map (margin ++ ·)).foldl
      (Body.take pre) {} = { intent := b.intent } := by
    split_ifs with he
    · rw [List.isEmpty_iff.mp he]
      rfl
    · rw [List.map_singleton, List.foldl_cons, take_intent hpre hm h.intent, List.foldl_nil]
  have hparams :
      ((roles.map fun (name, role) => Marker.param pre name role).map (margin ++ ·)).foldl
        (Body.take pre)
      { intent := b.intent } = { intent := b.intent, params := roles.map (·.1) } := by
    rw [List.map_map]
    exact foldl_take_params hpre hm h.params { intent := b.intent } (by simpa using h.distinct)
  have hdisabled :
      ((if b.isEnabled then [] else [Marker.disabled pre]).map (margin ++ ·)).foldl (Body.take pre)
      { intent := b.intent, params := roles.map (·.1) } =
      { intent := b.intent, params := roles.map (·.1), disabled := !b.isEnabled } := by
    split_ifs with he
    · simp [he]
    · rw [List.map_singleton, List.foldl_cons, take_disabled hpre hm, List.foldl_nil]
      simp [he]
  have hcode := foldl_take_code (not_infix_body h hm)
    { intent := b.intent, params := roles.map (·.1), disabled := !b.isEnabled }
  have hlines : ((Writing.body b.isEnabled b.code).map (addMargin margin)).map
      (fun l => if !b.isEnabled then uncomment l else l) =
        (codeLines b.code).map (addMargin margin) := by
    cases b.isEnabled with
    | true => simp [Writing.body, codeLines]
    | false =>
      simp only [Writing.body, Bool.not_false, if_true, Bool.false_eq_true, if_false, List.map_map]
      exact List.map_congr_left fun l _ => uncomment_commentOut hm l
  simp only [innerLines, Writing.header, List.map_append, List.foldl_append]
  rw [hintent, hparams, hdisabled, hcode]
  simp only [hlines, List.nil_append]

/-- The lines between the markers of a block count only in its pass. -/
theorem silent_inner : ∀ l ∈ innerLines pre margin roles b, Silent pre l := by
  intro l hl
  rcases List.mem_append.mp hl with hl | hl
  · refine forall_mem_header h hpre
      (fun kind hk body hb lacks => silent_marker hpre hm ?_ ?_ hb) l hl
    · constructor <;> rintro rfl <;> exact absurd hk (by decide)
    · exact lacks '\n' (by decide) (by rw [String.toList_ofList]; decide) h.lacks_newline
  · have hfree := not_infix_body h hm l hl
    obtain ⟨k, hk, rfl⟩ := List.mem_map.mp hl
    have hk := forall_mem_body (isLine_codeLines b.code) (fun _ => isLine_commentOut) k hk
    exact ⟨isLine_addMargin hm hk, (Marker.lacks_of_not_infix hfree).property?,
      (Marker.lacks_of_not_infix hfree).global?⟩

/-- The lines inside a block are read as what it says, up to any end. -/
theorem readBlock_inner {stop : Text} (hstop : Marker.isBlockEnd pre stop)
    (i : Nat) (title : Text) (inSection : Section) (rest : List Text) :
    readBlock pre i title inSection (innerLines pre margin roles b ++ stop :: rest) =
      ({ title, inSection, intent := b.intent, referencedParams := roles.map (·.1)
         isEnabled := b.isEnabled, code := dedent b.code, startLine := i
         endLine := i + ((innerLines pre margin roles b).length+1 : Nat), id := .fresh i },
        (innerLines pre margin roles b).length+1, []) := by
  rw [readBlock_closed (endsBody_inner h hpre hm) (foldl_take_inner h hpre hm) hstop]
  simp only [Body.toBlock, Bool.not_not, dedent_of_margin b.code hm]

end

lemma balanced_inner (h : Legible pre roles b) (hpre : ∀ c ∈ pre, isWord c) (hm : IsMargin margin) :
    BalancedFrom 0 (innerLines pre margin roles b) := by
  have hopens : HeaderLacks '\x7b' roles b :=
    ⟨h.intent.opens, fun p hp => ⟨(h.params p hp).1.opens, (h.params p hp).2.2.opens⟩⟩
  have hcloses : HeaderLacks '\x7d' roles b :=
    ⟨h.intent.closes, fun p hp => ⟨(h.params p hp).1.closes, (h.params p hp).2.2.closes⟩⟩
  have hheader : ∀ l ∈ (Writing.header pre b.intent roles b.isEnabled).map (margin ++ ·),
      braceDelta l = 0 := by
    refine forall_mem_header h.markable hpre fun _ _ _ _ lacks => braceDelta_marker hpre hm ?_ ?_
    · exact lacks _ (by decide) (by rw [String.toList_ofList]; decide) hopens
    · exact lacks _ (by decide) (by rw [String.toList_ofList]; decide) hcloses
  have hbody : BalancedFrom 0 ((Writing.body b.isEnabled b.code).map (addMargin margin)) := by
    cases he : b.isEnabled with
    | true =>
      refine (h.balanced he).congr ?_
      simp [Writing.body, codeLines, braceDelta_addMargin hm]
    | false =>
      refine balancedFrom_of_forall fun l hl => ?_
      obtain ⟨k, hk, rfl⟩ := List.mem_map.mp hl
      simp only [Writing.body, Bool.false_eq_true, if_false, List.mem_map] at hk
      obtain ⟨k, -, rfl⟩ := hk
      rw [braceDelta_addMargin hm, braceDelta_commentOut]
  exact (balancedFrom_of_forall hheader).append hbody

lemma enclosed_inner (h : Legible pre roles b) (hpre : ∀ c ∈ pre, isWord c) (hm : IsMargin margin) :
    Enclosed pre (innerLines pre margin roles b)
      { intent := b.intent, params := roles.map (·.1), disabled := !b.isEnabled
        code := (codeLines b.code).map (addMargin margin) } :=
  ⟨endsBody_inner h.markable hpre hm, foldl_take_inner h.markable hpre hm, balanced_inner h hpre hm,
    silent_inner h.markable hpre hm⟩

lemma ne_nil_of_mem_header : ∀ l ∈ Writing.header pre b.intent roles b.isEnabled, l ≠ [] := by
  intro l hl
  simp only [Writing.header, List.mem_append] at hl
  rcases hl with (hl | hl) | hl
  · split_ifs at hl
    · contradiction
    · rw [List.mem_singleton.mp hl]
      exact Marker.format_ne_nil _ _ _
  · obtain ⟨p, -, rfl⟩ := List.mem_map.mp hl
    exact Marker.format_ne_nil _ _ _
  · split_ifs at hl
    · contradiction
    · rw [List.mem_singleton.mp hl]
      exact Marker.format_ne_nil _ _ _

lemma plain_stubIntent (pre : Text) : Plain pre Writing.stubIntent := plain_of_free (by decide)

lemma enclosed_stub (hpre : ∀ c ∈ pre, isWord c) (hm : IsMargin margin) :
    Enclosed pre [margin ++ Marker.intent pre Writing.stubIntent]
      { intent := Writing.stubIntent } := by
  have hp := plain_stubIntent pre
  have hq := not_infix_inQuotes hpre hp.quotable
  have hlacks : ∀ kind, kind ≠ .intent →
      Marker.Lacks pre kind (margin ++ Marker.intent pre Writing.stubIntent) :=
    fun kind hk => Marker.lacks_format hpre hm.isBlank hq hk
  refine ⟨?_, ?_, ?_, ?_⟩
  · intro l hl
    rw [List.mem_singleton.mp hl]
    simp [endsBody, (hlacks .blockEnd (by decide)).isBlockEnd,
      (hlacks .blockStart (by decide)).blockStart?]
  · exact take_intent hpre hm hp.quotable {}
  · refine balancedFrom_of_forall fun l hl => ?_
    rw [List.mem_singleton.mp hl]
    exact braceDelta_marker hpre hm (not_mem_inQuotes hp.quotable (by decide) hp.opens)
      (not_mem_inQuotes hp.quotable (by decide) hp.closes)
  · intro l hl
    rw [List.mem_singleton.mp hl]
    exact silent_marker hpre hm (by decide) (not_mem_inQuotes hp.quotable (by decide) hp.newline) hq

end Source

/-- The block that is read where a block is written. Of one that only declares just the title is
left. -/
def Block.rewritten (b : Block) : Block :=
  if isDeclarationOnly b.code then
    { title := b.title, inSection := b.inSection, intent := Writing.stubIntent, id := .fresh 0 }
  else { b.detached with code := dedent b.code }

namespace Source
open Layout

/-- What makes a block readable where it is written. -/
def Readable (pre : Text) (roles : List (Text × Text)) (b : Block) : Prop :=
  Plain pre b.title ∧ b.title ≠ [] ∧ (isDeclarationOnly b.code = false → Legible pre roles b)

section
variable {indent : Text} {level : Nat} {filled : Bool} {first last : Text}

/-- The lines of a block: its start and its header, its code under the margin, its end and a blank
line. -/
theorem lines_enclosed {header body : List Text} (hfirst : first ≠ [])
    (hheader : ∀ l ∈ header, l ≠ []) (hlast : last ≠ []) :
    (line first ++ ofLines header ++ verbatim body ++ line last ++ blank).lines indent level
      filled =
      (Layout.margin indent level ++ first) :: (header.map (Layout.margin indent level ++ ·) ++
        body.map (addMargin (Layout.margin indent level))) ++
          [Layout.margin indent level ++ last] ++ [[]] := by
  simp only [lines_append, lines_line hfirst, lines_ofLines hheader, lines_line hlast]
  rw [lines_blank _ _ (by simp [hlast])]
  simp only [List.cons_append]
  rfl

lemma lines_stub {t : Text} (hfirst : first ≠ []) (ht : t ≠ []) (hlast : last ≠ []) :
    (ofLines [first, t, last, []]).lines indent level filled =
      (Layout.margin indent level ++ first) :: [Layout.margin indent level ++ t] ++
        [Layout.margin indent level ++ last] ++ [[]] := by
  have hblank : ∀ filled,
      blank.lines indent level (filledAfter filled [Layout.margin indent level ++ last]) = [[]] :=
    fun filled => lines_blank filled [] (by simp [hlast])
  have hshape : ofLines [first, t, last, []] =
    line first ++ (line t ++ (line last ++ (blank ++ empty))) := rfl
  rw [hshape]
  simp only [lines_append, lines_line hfirst, lines_line ht, lines_line hlast, hblank]
  rfl

end

lemma leads_blockWith (hpre : ∀ c ∈ settings.tagPrefix, isWord c) {level : Nat}
    (hm : IsMargin (Layout.margin settings.indent level)) (h : Readable settings.tagPrefix roles b)
    (hroles : b.referencedParams = roles.map (·.1)) (hsection : s.found.inSection = b.inSection) :
    Leads (Reads settings) settings.indent level (Writing.blockWith settings.tagPrefix roles b) s
      (s.addBlock b.rewritten) := by
  obtain ⟨ht, hne, hlegible⟩ := h
  have hstart : Marker.blockStart settings.tagPrefix b.title ≠ [] := Marker.format_ne_nil _ _ _
  have hintent : Marker.intent settings.tagPrefix Writing.stubIntent ≠ [] :=
    Marker.format_ne_nil _ _ _
  have hend : Marker.blockEnd settings.tagPrefix ≠ [] := Marker.format_ne_nil _ _ _
  intro filled
  by_cases hd : isDeclarationOnly b.code = true
  · have hread := (enclosed_stub hpre hm).reads (s := s) hpre hm ht hne
    have hblock : ({ intent := Writing.stubIntent } : Body).toBlock b.title s.found.inSection =
        b.rewritten := by
      rw [Block.rewritten, if_pos hd, hsection]
      rfl
    rw [hblock] at hread
    rw [Writing.blockWith, if_pos hd, lines_stub hstart hintent hend]
    exact (Reads.along settings).append hread Reads.blank
  · rw [Bool.not_eq_true] at hd
    have hread := (enclosed_inner (hlegible hd) hpre hm).reads (s := s) hpre hm ht hne
    have hcode := dedent_of_margin b.code hm
    have hblock : Body.toBlock
        { intent := b.intent, params := roles.map (·.1), disabled := !b.isEnabled
          code := (codeLines b.code).map (addMargin (Layout.margin settings.indent level)) }
        b.title s.found.inSection = b.rewritten := by
      simp [Body.toBlock, Block.rewritten, Block.detached, hd, hcode, hsection, hroles]
    rw [hblock] at hread
    rw [Writing.blockWith, if_neg (by simp [hd]),
      lines_enclosed hstart (fun l hl => ne_nil_of_mem_header l hl) hend]
    exact (Reads.along settings).append hread Reads.blank

end Source
end MarkedShader
