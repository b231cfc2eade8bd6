import MarkedShader.Proofs.Record.Contained
import MarkedShader.Proofs.Record.ReadBack

/-! What reading a record trips on: the values from which a fault escapes that is not reported as
one of the record. Main statement: `ofRecord_escapes_iff`. -/
namespace MarkedShader
namespace Record.Read

variable {d : Data} {es : Entries} {f : RecordFault}

/-- Every item of a value is read. -/
def AllRead {α : Type} (read : Data → Except RecordFault α) (d : Data) : Prop :=
  ∃ ds, items {} d = .ok ds ∧ ∀ d ∈ ds, (read d).isOk

/-- An item of a value cannot be got over, and those before it are read. -/
def OneTrips {α : Type} (read : Data → Except RecordFault α) (trips : Data → Prop)
    (d : Data) : Prop :=
  ∃ ds, items {} d = .ok ds ∧ FirstTrip (fun d => (read d).isOk) trips ds

lemma isOk_mapM_iff {α : Type} {read : Data → Except RecordFault α} {ds : List Data} :
    (ds.mapM read).isOk ↔ ∀ d ∈ ds, (read d).isOk := by
  induction ds with
  | nil => exact ⟨fun _ => nofun, fun _ => rfl⟩
  | cons d ds ih =>
    rw [List.mapM_cons, isOk_bind_iff, List.forall_mem_cons, ← ih, isOk_iff, isOk_iff]
    constructor
    · rintro ⟨a, ha, h⟩
      obtain ⟨as, has, -⟩ := isOk_bind_iff.mp h
      exact ⟨⟨a, ha⟩, as, has⟩
    · rintro ⟨⟨a, ha⟩, as, has⟩
      exact ⟨a, ha, isOk_bind_iff.mpr ⟨as, has, rfl⟩⟩

lemma entriesOr_eq_ok_iff {fault : RecordFault} :
    entriesOr {} fault d = .ok es ↔ d = .mapping es := by
  cases d with
  | mapping fs =>
    exact ⟨fun h => congrArg _ (Except.ok.inj h), fun h => congrArg _ (Data.mapping.inj h)⟩
  | _ => exact ⟨nofun, nofun⟩

lemma escapes_entriesOr_iff {fault f : RecordFault} :
    Escapes (entriesOr {} fault d) f ↔ (∀ es, d ≠ .mapping es) ∧ f = fault ∧ fault.escapes := by
  cases d with
  | mapping fs => exact ⟨fun h => (nomatch h.1), fun h => absurd rfl (h.1 fs)⟩
  | _ =>
    exact ⟨fun h => ⟨fun _ => nofun, escapes_error_iff.mp h⟩, fun h => escapes_error_iff.mpr h.2⟩

/-- The stage of a field is no name but can be looked up, and cannot be shown. -/
inductive FieldTrips : Data → RecordFault → Prop
  | stage {es : Entries} {found : Data} (name : (Data.lookup? "name" es).isSome)
      (dataType : (Data.lookup? "data_type" es).isSome) (stage : Data.lookup? "stage" es =
        some found) (fixed : found.isFixed) (long : found.isSpellable = false) :
      FieldTrips (.mapping es) (.unspellable .integerTooLong)

/-- Reading a graph trips on the first of its fields that it trips on, if it gets there. -/
inductive GraphTrips : Data → RecordFault → Prop
  | input {es : Entries}
      {inputs : Data} {f : RecordFault} (inputFields : Data.lookup? "input_fields" es = some inputs)
      (trips : OneTrips (field {}) (FieldTrips · f) inputs) : GraphTrips (.mapping es) f
  | output {es : Entries} {inputs outputs : Data} {f : RecordFault}
      (inputFields : Data.lookup? "input_fields" es = some inputs) (read : AllRead
        (field {}) inputs) (outputFields : Data.lookup? "output_fields" es = some outputs)
      (trips : OneTrips (field {}) (FieldTrips · f) outputs) : GraphTrips (.mapping es) f

/-- Reading a pass trips on what is no mapping, be it the pass or its render state, and on what a
graph trips on. -/
inductive PassTrips : Data → RecordFault → Prop
  | noMapping {d : Data} (other : ∀ es, d ≠ .mapping es) : PassTrips d .noParts
  | graph {es : Entries} {f : RecordFault} (trips : GraphTrips (getD es "data_flow" .null) f) :
      PassTrips (.mapping es) f
  | renderState {es : Entries} (graph : (optional (graph {}) (getD es "data_flow" .null)).isOk)
      (blocks : AllRead (block {} 0) (getD es "blocks" (.list [])))
      (id : (Data.lookup? "id" es).isSome) (name : (Data.lookup? "name" es).isSome)
      (pragmas : (items {} (getD es "pragmas" (.list []))).isOk)
      (includes : (items {} (getD es "includes" (.list []))).isOk)
      (some : getD es "render_state" .null ≠ .null)
      (other : ∀ fs, getD es "render_state" .null ≠ .mapping fs) : PassTrips (.mapping es) .noParts

/-- What a whole record trips on, with the fault that escapes. All that is read before has to be as
it should. -/
inductive Trips : Data → RecordFault → Prop
  | version {es : Entries} (other : (getD es "version" .null).same (.int version) = false)
      (long : (getD es "version" .null).isSpellable = false) :
      Trips (.mapping es) (.unspellable .integerTooLong)
  | activeIndex {es : Entries} {negative : Bool} (version : (getD es "version" .null).same
        (.int version)) (properties : AllRead (property {}) (getD es "properties" (.list [])))
      (shaderName : (Data.lookup? "shader_name" es).isSome)
      (infinite : getD es "active_pass_index" (.int 0) = .real (.infinite negative)) :
      Trips (.mapping es) .infinite
  | pass {es : Entries} {f : RecordFault} (version : (getD es "version" .null).same (.int version))
      (properties : AllRead (property {}) (getD es "properties" (.list [])))
      (shaderName : (Data.lookup? "shader_name" es).isSome)
      (active : (activeIndex (getD es "active_pass_index" (.int 0))).isOk)
      (settings : (globalSettings {} (getD es "global_settings" (.mapping []))).isOk)
      (trips : OneTrips (pass {} 0) (PassTrips · f) (getD es "passes" (.list []))) :
      Trips (.mapping es) f

lemma required_eq_ok_iff {key : String} :
    required es key = .ok d ↔ Data.lookup? key es = some d := by
  unfold required
  cases Data.lookup? key es with
  | none => exact ⟨nofun, nofun⟩
  | some e => simp

lemma escapes_stage_iff :
    Escapes (stage {} d) f ↔
      d.isFixed ∧ d.isSpellable = false ∧ f = .unspellable .integerTooLong := by
  have hfixed : d.isSpellable = false → (({} : Store).isFixed d = d.isFixed) := by
    cases d with
    | shared => exact nofun
    | _ => exact fun _ => rfl
  unfold stage
  split
  · rename_i h
    constructor
    · exact fun h => absurd h (contained_error rfl f)
    · rintro ⟨hd, hlong, -⟩
      simp [hfixed hlong, hd] at h
  · rename_i h
    split
    · rename_i name hname
      constructor
      · exact fun h => absurd h (contained_ok _ f)
      · rintro ⟨-, hlong, -⟩
        cases d with
        | text => cases hlong
        | _ => cases hname
    · rw [escapes_faultOf_iff fun _ => rfl]
      refine ⟨fun ⟨hlong, hf⟩ => ⟨?_, hlong, hf⟩, And.right⟩
      simpa [hfixed hlong] using h

lemma escapes_field_iff : Escapes (field {} d) f ↔ FieldTrips d f := by
  constructor
  · intro h
    obtain ⟨es, hes, h⟩ := (contained_entriesOr rfl d).escapes_bind_iff.mp h
    obtain ⟨name, hname, h⟩ := (contained_required es _).escapes_bind_iff.mp h
    obtain ⟨dataType, htype, h⟩ := (contained_required es _).escapes_bind_iff.mp h
    obtain ⟨found, hfound, h⟩ := (contained_required es _).escapes_bind_iff.mp h
    rcases escapes_bind_iff.mp h with h | ⟨_, -, h⟩
    · obtain ⟨hfixed, hlong, rfl⟩ := escapes_stage_iff.mp h
      rw [entriesOr_eq_ok_iff.mp hes]
      exact .stage (Option.isSome_of_eq_some (required_eq_ok_iff.mp hname))
        (Option.isSome_of_eq_some (required_eq_ok_iff.mp htype))
          (required_eq_ok_iff.mp hfound) hfixed hlong
    · exact absurd h (contained_ok _ f)
  · rintro ⟨hname, htype, hstage, hfixed, hlong⟩
    obtain ⟨name, hname⟩ := Option.isSome_iff_exists.mp hname
    obtain ⟨dataType, htype⟩ := Option.isSome_iff_exists.mp htype
    refine .of_ok (entriesOr_eq_ok_iff.mpr rfl) (.of_ok (required_eq_ok_iff.mpr hname)
      (.of_ok (required_eq_ok_iff.mpr htype) (.of_ok (required_eq_ok_iff.mpr hstage) ?_)))
    exact escapes_bind_iff.mpr (.inl (escapes_stage_iff.mpr ⟨hfixed, hlong, rfl⟩))

lemma escapes_items_mapM_iff {α β : Type} {read : Data → Except RecordFault α}
    {k : List α → Except RecordFault β} : Escapes (items {} d >>= fun ds => ds.mapM read >>= k) f ↔
      OneTrips read (fun d => Escapes (read d) f) d ∨
        ∃ ds as, items {} d = .ok ds ∧ ds.mapM read = .ok as ∧ Escapes (k as) f := by
  rw [(contained_items d).escapes_bind_iff]
  constructor
  · rintro ⟨ds, hds, h⟩
    rcases escapes_bind_iff.mp h with h | ⟨as, has, h⟩
    · exact .inl ⟨ds, hds, escapes_mapM_iff.mp h⟩
    · exact .inr ⟨ds, as, hds, has, h⟩
  · rintro (⟨ds, hds, h⟩ | ⟨ds, as, hds, has, h⟩)
    · exact ⟨ds, hds, escapes_bind_iff.mpr (.inl (escapes_mapM_iff.mpr h))⟩
    · exact ⟨ds, hds, .of_ok has h⟩

lemma allRead_iff {α : Type} {read : Data → Except RecordFault α} :
    AllRead read d ↔ ∃ ds as, items {} d = .ok ds ∧ ds.mapM read = .ok as := by
  simp only [AllRead, ← isOk_mapM_iff]
  simp only [isOk_iff, exists_and_left]

lemma escapes_graph_iff : Escapes (graph {} d) f ↔ GraphTrips d f := by
  constructor
  · intro h
    obtain ⟨es, hes, h⟩ := (contained_entriesOr rfl d).escapes_bind_iff.mp h
    rw [entriesOr_eq_ok_iff.mp hes]
    obtain ⟨inputs, hinputs, h⟩ := (contained_required es _).escapes_bind_iff.mp h
    have hinputs := required_eq_ok_iff.mp hinputs
    rcases escapes_items_mapM_iff.mp h with h | ⟨ds, as, hds, has, h⟩
    · simp only [escapes_field_iff] at h
      exact .input hinputs h
    · obtain ⟨outputs, houtputs, h⟩ := (contained_required es _).escapes_bind_iff.mp h
      have houtputs := required_eq_ok_iff.mp houtputs
      rcases escapes_items_mapM_iff.mp h with h | ⟨_, _, -, -, h⟩
      · simp only [escapes_field_iff] at h
        exact .output hinputs (allRead_iff.mpr ⟨ds, as, hds, has⟩) houtputs h
      · exact absurd h (contained_ok _ f)
  · intro h
    cases h with
    | input hinputs htrips =>
      simp only [← escapes_field_iff] at htrips
      refine .of_ok (entriesOr_eq_ok_iff.mpr rfl) (.of_ok (required_eq_ok_iff.mpr hinputs) ?_)
      exact escapes_items_mapM_iff.mpr (.inl htrips)
    | output hinputs hread houtputs htrips =>
      simp only [← escapes_field_iff] at htrips
      obtain ⟨ds, as, hds, has⟩ := allRead_iff.mp hread
      refine .of_ok (entriesOr_eq_ok_iff.mpr rfl) (.of_ok (required_eq_ok_iff.mpr hinputs) ?_)
      refine escapes_items_mapM_iff.mpr
        (.inr ⟨ds, as, hds, has, .of_ok (required_eq_ok_iff.mpr houtputs) ?_⟩)
      exact escapes_items_mapM_iff.mpr (.inl htrips)

lemma escapes_optional_iff {α : Type} {read : Data → Except RecordFault α} :
    Escapes (optional read d) f ↔ d ≠ .null ∧ Escapes (read d) f := by
  cases d with
  | null => exact ⟨fun h => (nomatch h.1), fun h => absurd rfl h.1⟩
  | _ => exact escapes_map_iff.trans ⟨fun h => ⟨nofun, h⟩, fun h => h.2⟩

lemma escapes_renderState_iff :
    Escapes (renderState {} d) f ↔ (∀ es, d ≠ .mapping es) ∧ f = .noParts := by
  constructor
  · intro h
    rcases escapes_bind_iff.mp h with h | ⟨es, -, h⟩
    · obtain ⟨hd, hf, -⟩ := escapes_entriesOr_iff.mp h
      exact ⟨hd, hf⟩
    · have hstencil := contained_optional contained_stencil (getD es "stencil" .null)
      exact absurd h (hstencil.bind (fun _ => contained_ok _) f)
  · rintro ⟨hd, rfl⟩
    exact escapes_bind_iff.mpr (.inl (escapes_entriesOr_iff.mpr ⟨hd, rfl, rfl⟩))

lemma isOk_ok {α : Type} (a : α) : (.ok a : Except RecordFault α).isOk := rfl

/-- Made-up identities keep no block from being read. -/
lemma isOk_block_iff (serial : Nat) : (block {} serial d).isOk ↔ (block {} 0 d).isOk := by
  simp only [block, isOk_bind_iff, isOk_ok]

lemma isOk_blocks_iff (serial : Nat) (ds : List Data) :
    (blocks {} serial ds).isOk ↔ ∀ d ∈ ds, (block {} 0 d).isOk := by
  induction ds generalizing serial with
  | nil => exact ⟨fun _ => nofun, fun _ => rfl⟩
  | cons d ds ih =>
    rw [List.forall_mem_cons, ← isOk_block_iff serial, ← ih (serial+1), blocks]
    simp only [isOk_bind_iff, isOk_ok, and_true, exists_and_right, ← isOk_iff]

lemma isOk_pass_iff (serial : Nat) : (pass {} serial d).isOk ↔ (pass {} 0 d).isOk := by
  simp only [pass, isOk_bind_iff, isOk_ok, exists_and_right, ← isOk_iff, isOk_blocks_iff]

lemma escapes_pass_iff (serial : Nat) : Escapes (pass {} serial d) f ↔ PassTrips d f := by
  constructor
  · intro h
    rcases escapes_bind_iff.mp h with h | ⟨es, hes, h⟩
    · obtain ⟨hd, rfl, -⟩ := escapes_entriesOr_iff.mp h
      exact .noMapping hd
    · rw [entriesOr_eq_ok_iff.mp hes]
      rcases escapes_bind_iff.mp h with h | ⟨g, hg, h⟩
      · exact .graph (escapes_graph_iff.mp (escapes_optional_iff.mp h).2)
      · obtain ⟨ds, hds, h⟩ := (contained_items _).escapes_bind_iff.mp h
        obtain ⟨bs, hbs, h⟩ := (contained_blocks serial ds).escapes_bind_iff.mp h
        obtain ⟨id, hid, h⟩ := (contained_required es _).escapes_bind_iff.mp h
        obtain ⟨name, hname, h⟩ := (contained_required es _).escapes_bind_iff.mp h
        obtain ⟨pragmas, hpragmas, h⟩ := (contained_items _).escapes_bind_iff.mp h
        obtain ⟨includes, hincludes, h⟩ := (contained_items _).escapes_bind_iff.mp h
        rcases escapes_bind_iff.mp h with h | ⟨_, -, h⟩
        · obtain ⟨hsome, h⟩ := escapes_optional_iff.mp h
          obtain ⟨hother, rfl⟩ := escapes_renderState_iff.mp h
          have hblocks := (isOk_blocks_iff serial ds).mp (isOk_iff.mpr ⟨bs, hbs⟩)
          exact .renderState (isOk_iff.mpr ⟨g, hg⟩) ⟨ds, hds, hblocks⟩
            (Option.isSome_of_eq_some (required_eq_ok_iff.mp hid))
            (Option.isSome_of_eq_some (required_eq_ok_iff.mp hname))
              (isOk_iff.mpr ⟨pragmas, hpragmas⟩) (isOk_iff.mpr ⟨includes, hincludes⟩) hsome hother
        · exact absurd h (contained_ok _ f)
  · intro h
    cases h with
    | noMapping hd => exact escapes_bind_iff.mpr (.inl (escapes_entriesOr_iff.mpr ⟨hd, rfl, rfl⟩))
    | graph htrips =>
      have hsome : getD _ "data_flow" .null ≠ .null := fun hnull => by
        rw [hnull] at htrips
        cases htrips
      refine .of_ok (entriesOr_eq_ok_iff.mpr rfl) (escapes_bind_iff.mpr (.inl ?_))
      exact escapes_optional_iff.mpr ⟨hsome, escapes_graph_iff.mpr htrips⟩
    | renderState hgraph hblocks hid hname hpragmas hincludes hsome hother =>
      obtain ⟨g, hg⟩ := isOk_iff.mp hgraph
      obtain ⟨ds, hds, hblocks⟩ := hblocks
      obtain ⟨bs, hbs⟩ := isOk_iff.mp ((isOk_blocks_iff serial ds).mpr hblocks)
      obtain ⟨id, hid⟩ := Option.isSome_iff_exists.mp hid
      obtain ⟨name, hname⟩ := Option.isSome_iff_exists.mp hname
      obtain ⟨pragmas, hpragmas⟩ := isOk_iff.mp hpragmas
      obtain ⟨includes, hincludes⟩ := isOk_iff.mp hincludes
      refine .of_ok (entriesOr_eq_ok_iff.mpr rfl) (.of_ok hg (.of_ok hds (.of_ok hbs ?_)))
      refine .of_ok (required_eq_ok_iff.mpr hid) (.of_ok (required_eq_ok_iff.mpr hname) ?_)
      refine .of_ok hpragmas (.of_ok hincludes (escapes_bind_iff.mpr (.inl ?_)))
      exact escapes_optional_iff.mpr ⟨hsome, escapes_renderState_iff.mpr ⟨hother, rfl⟩⟩

lemma escapes_passes_iff (serial : Nat) (ds : List Data) :
    Escapes (passes {} serial ds) f ↔
      FirstTrip (fun d => (pass {} 0 d).isOk) (PassTrips · f) ds := by
  induction ds generalizing serial with
  | nil => exact ⟨fun h => (nomatch h.1), False.elim⟩
  | cons d ds ih =>
    rw [passes, escapes_bind_iff, escapes_pass_iff, FirstTrip, ← isOk_pass_iff serial, isOk_iff]
    refine or_congr_right ?_
    constructor
    · rintro ⟨p, hp, h⟩
      rcases escapes_bind_iff.mp h with h | ⟨_, -, h⟩
      · exact ⟨⟨p, hp⟩, (ih _).mp h⟩
      · exact absurd h (contained_ok _ f)
    · rintro ⟨⟨p, hp⟩, h⟩
      exact ⟨p, hp, escapes_bind_iff.mpr (.inl ((ih _).mpr h))⟩

lemma contained_integerOf (found : Data) (t : Text) : Contained (integerOf found t) := by
  unfold integerOf
  split
  · exact contained_ok _
  · exact contained_error rfl
  · exact contained_error rfl

lemma escapes_activeIndex_iff :
    Escapes (activeIndex d) f ↔ (∃ negative, d = .real (.infinite negative)) ∧ f = .infinite := by
  constructor
  · intro h
    unfold activeIndex at h
    split at h
    case h_4 negative => exact ⟨⟨negative, rfl⟩, (escapes_error_iff.mp h).1⟩
    case h_6 | h_7 => exact absurd h (contained_integerOf _ _ f)
    case h_3 | h_8 => exact absurd h (contained_error rfl f)
    all_goals exact absurd h (contained_ok _ f)
  · rintro ⟨⟨negative, rfl⟩, rfl⟩
    exact ⟨rfl, rfl⟩

lemma escapes_draft_iff : Escapes (draft {} d) f ↔ Trips d f := by
  constructor
  · intro h
    obtain ⟨es, hes, h⟩ := (contained_entriesOr rfl d).escapes_bind_iff.mp h
    rw [entriesOr_eq_ok_iff.mp hes]
    dsimp only at h
    split at h
    · rename_i hother
      obtain ⟨hlong, rfl⟩ := (escapes_faultOf_iff fun _ => rfl).mp h
      exact .version (by simpa using hother) hlong
    · rename_i hversion
      have hversion : (getD es "version" .null).same (.int version) := by simpa using hversion
      rcases escapes_items_mapM_iff.mp h with ⟨ds, -, h⟩ | ⟨ds, ps, hds, hps, h⟩
      · obtain ⟨d, -, h⟩ := h.exists
        exact absurd h (contained_property d f)
      · have hproperties := allRead_iff.mpr ⟨ds, ps, hds, hps⟩
        obtain ⟨name, hname, h⟩ := (contained_required es _).escapes_bind_iff.mp h
        have hname := Option.isSome_of_eq_some (required_eq_ok_iff.mp hname)
        rcases escapes_bind_iff.mp h with h | ⟨active, hactive, h⟩
        · obtain ⟨⟨negative, hinfinite⟩, rfl⟩ := escapes_activeIndex_iff.mp h
          exact .activeIndex hversion hproperties hname hinfinite
        · obtain ⟨settings, hsettings, h⟩ := (contained_globalSettings _).escapes_bind_iff.mp h
          obtain ⟨as, has, h⟩ := (contained_items _).escapes_bind_iff.mp h
          rcases escapes_bind_iff.mp h with h | ⟨_, -, h⟩
          · exact .pass hversion hproperties hname (isOk_iff.mpr ⟨active, hactive⟩)
              (isOk_iff.mpr ⟨settings, hsettings⟩) ⟨as, has, (escapes_passes_iff _ as).mp h⟩
          · exact absurd h (contained_ok _ f)
  · intro h
    cases h with
    | version hother hlong =>
      refine .of_ok (entriesOr_eq_ok_iff.mpr rfl) ?_
      dsimp only
      rw [if_pos (by simp [hother])]
      exact (escapes_faultOf_iff fun _ => rfl).mpr ⟨hlong, rfl⟩
    | activeIndex hversion hproperties hname hinfinite =>
      obtain ⟨ds, ps, hds, hps⟩ := allRead_iff.mp hproperties
      obtain ⟨name, hname⟩ := Option.isSome_iff_exists.mp hname
      refine .of_ok (entriesOr_eq_ok_iff.mpr rfl) ?_
      dsimp only
      rw [if_neg (by simp [hversion])]
      refine .of_ok hds (.of_ok hps (.of_ok (required_eq_ok_iff.mpr hname) ?_))
      exact escapes_bind_iff.mpr (.inl (escapes_activeIndex_iff.mpr ⟨⟨_, hinfinite⟩, rfl⟩))
    | pass hversion hproperties hname hactive hsettings htrips =>
      obtain ⟨ds, ps, hds, hps⟩ := allRead_iff.mp hproperties
      obtain ⟨name, hname⟩ := Option.isSome_iff_exists.mp hname
      obtain ⟨active, hactive⟩ := isOk_iff.mp hactive
      obtain ⟨settings, hsettings⟩ := isOk_iff.mp hsettings
      obtain ⟨as, has, htrips⟩ := htrips
      refine .of_ok (entriesOr_eq_ok_iff.mpr rfl) ?_
      dsimp only
      rw [if_neg (by simp [hversion])]
      refine .of_ok hds
        (.of_ok hps (.of_ok (required_eq_ok_iff.mpr hname) (.of_ok hactive (.of_ok hsettings ?_))))
      exact .of_ok has (escapes_bind_iff.mpr (.inl ((escapes_passes_iff _ as).mpr htrips)))

/-- Reading ends in a fault that is not reported as one of the record exactly if it gets to an
unsupported version that cannot be shown, an infinite active index, or a pass that it trips on. -/
theorem ofRecord_escapes_iff (d : Data) (f : RecordFault) :
    Draft.ofRecord {} d = .error f ∧ f.escapes ↔ Trips d f :=
  escapes_draft_iff

theorem ofRecord_escapes_textPass :
    let d : Data := .mapping [entry "version" (.int version), entry "shader_name" (.ofString "S"),
      entry "passes" (.list [.ofString "x"])]
    Draft.ofRecord {} d = .error .noParts ∧ RecordFault.noParts.escapes :=
  (ofRecord_escapes_iff _ _).mpr
    (.pass same_version ⟨[], rfl, nofun⟩ rfl rfl rfl ⟨_, rfl, .inl (.noMapping nofun)⟩)

end Record.Read
end MarkedShader
