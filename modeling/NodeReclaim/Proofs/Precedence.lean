import NodeReclaim.Proofs.Commands

/-! Where every setting comes from. The environment stands over the file and the file over the defaults, field
by field, and a subscription given to a command stands over all of them. -/
namespace NodeReclaim
open Program

namespace Table

theorem get?_named (names : List String) (f : String → Option Value) (name : String) :
    Table.get? (names.filterMap fun n => (f n).map (n, ·)) name = if name ∈ names then f name else none := by
  induction names with
  | nil => rfl
  | cons n names ih =>
    cases hf : f n with
    | none =>
      rw [List.filterMap_cons_none (by rw [hf]; rfl), ih]
      by_cases h : name = n
      · simp [h, hf]
      · simp [h]
    | some v =>
      rw [List.filterMap_cons_some (by rw [hf]; rfl), get?_cons, ih]
      by_cases h : n = name
      · simp [← h, hf]
      · simp [h, Ne.symm h]

theorem keys_named (names : List String) (f : String → Option Value) :
    ((names.filterMap fun n => (f n).map (n, ·)).map (·.1)).Sublist names := by
  induction names with
  | nil => exact List.Sublist.slnil
  | cons n names ih =>
    cases hf : f n with
    | none =>
      rw [List.filterMap_cons_none (by rw [hf]; rfl)]
      exact ih.cons n
    | some v =>
      rw [List.filterMap_cons_some (by rw [hf]; rfl)]
      exact ih.cons_cons n

end Table

namespace Settings

/-! ### The layers -/

/-- The layer of the environment: every field that it sets, with its value. -/
def settings (environment : List (String × String)) : Table :=
  (defaults.map (·.1)).filterMap fun field => (settingOf? environment field).map (field, ·)

/-- What a table comes to under an environment: the first variable that does not convert is refused, whatever
the table holds, and otherwise the table counts with the layer of the environment over it. -/
def layered (levels : Nat) (environment : List (String × String)) (t : Table) : Program Settings :=
  match firstFlaw? environment with
  | some (v, raw) => refuse (.unreadableVariable v.name raw)
  | none => ofTable (t.overlay (settings environment)) levels

theorem settingOf?_unknown (environment : List (String × String)) (h : field ∉ defaults.map (·.1)) :
    settingOf? environment field = none := by
  have unset : (knownVariables.reverse.find? fun v => v.field == field && (rawOf environment v).isSome) = none := by
    apply List.find?_eq_none.2
    intro v hv
    have known : ∀ v ∈ knownVariables, v.field ∈ defaults.map (·.1) := by decide
    have other : v.field ≠ field := fun same => h (same ▸ known v (List.mem_reverse.1 hv))
    simp [other]
  rw [settingOf?, unset]
  rfl

theorem get?_settings (environment : List (String × String)) (field : String) :
    (settings environment).get? field = settingOf? environment field := by
  rw [settings, Table.get?_named]
  split
  next => rfl
  next unknown => exact (settingOf?_unknown environment unknown).symm

theorem nodup_settings (environment : List (String × String)) : ((settings environment).map (·.1)).Nodup :=
  (Table.keys_named _ _).nodup (by decide)

/-! ### Which keys are unknown -/

theorem isKnown_iff (key : String) : isKnown key = true ↔ key ∈ defaults.map (·.1) := by
  simp [isKnown]

theorem unknown_put (t : Table) (v : Value) (h : isKnown key = true) :
    ((t.put key v).map (·.1)).filter (fun k => !isKnown k) = (t.map (·.1)).filter fun k => !isKnown k := by
  rw [Table.keys_put]
  split
  · rfl
  · simp [h]

theorem unknownKeys_overlay (t : Table) {later : Table} (h : ∀ e ∈ later, isKnown e.1 = true) :
    unknownKeys (t.overlay later) = unknownKeys t := by
  induction later generalizing t with
  | nil => rfl
  | cons e later ih =>
    change unknownKeys ((t.put e.1 e.2).overlay later) = _
    rw [ih _ fun e' he' => h e' (List.mem_cons_of_mem e he')]
    unfold unknownKeys
    rw [unknown_put t e.2 (h e List.mem_cons_self)]

theorem isKnown_of_settingOf? {environment : List (String × String)} {changes : Table}
    (h : ∀ field, changes.get? field = settingOf? environment field) : ∀ e ∈ changes, isKnown e.1 = true := by
  intro e he
  rw [isKnown_iff]
  by_contra unknown
  have missing : changes.get? e.1 = none := (h e.1).trans (settingOf?_unknown environment unknown)
  exact (Table.get?_eq_none_iff changes e.1).1 missing (List.mem_map_of_mem he)

/-! ### What a table comes to -/

theorem ofTable_congr (hkeys : unknownKeys t = unknownKeys t') (hfields : ∀ field, fieldOf t field = fieldOf t' field)
    (levels : Nat) : ofTable t levels = ofTable t' levels := by
  unfold ofTable
  rw [hkeys, read_congr hfields]

theorem ofTable_changes {environment : List (String × String)} {changes : Table}
    (once : (changes.map (·.1)).Nodup) (h : ∀ field, changes.get? field = settingOf? environment field) (t : Table)
    (levels : Nat) : ofTable (t.overlay changes) levels = ofTable (t.overlay (settings environment)) levels := by
  apply ofTable_congr
  · rw [unknownKeys_overlay t (isKnown_of_settingOf? h),
      unknownKeys_overlay t (isKnown_of_settingOf? (get?_settings environment))]
  · intro field
    rw [fieldOf_overlay once, fieldOf_overlay (nodup_settings environment), h, get?_settings]

theorem load_layers (custom : Option String) (runtime : Runtime) :
    load custom runtime = contents runtime.parse custom >>= fun t =>
      ask .host >>= fun host => layered runtime.levels host.environment t := by
  rw [load_eq]
  congr 1
  funext t
  apply congrArg (ask .host >>= ·)
  funext host
  have whole := overrides_eq host.environment
  unfold layered
  cases found : firstFlaw? host.environment with
  | some flaw =>
    rw [found] at whole
    rw [show overrides host.environment = _ from whole]
    rfl
  | none =>
    rw [found] at whole
    obtain ⟨changes, set, once, fields⟩ := whole
    rw [set]
    exact ofTable_changes once fields t runtime.levels

theorem fieldOf_settings (environment : List (String × String)) (t : Table) (field : String) :
    fieldOf (t.overlay (settings environment)) field =
      (((settingOf? environment field).or (t.get? field)).or (Table.get? defaults field)).getD .null := by
  rw [fieldOf_overlay (nodup_settings environment), get?_settings]

theorem read_settings_congr {environment : List (String × String)} {t t' : Table}
    (h : ∀ field, settingOf? environment field = none → t.get? field = t'.get? field) (levels : Nat) :
    read levels (t.overlay (settings environment)) = read levels (t'.overlay (settings environment)) := by
  refine read_congr (fun field => ?_) levels
  rw [fieldOf_settings, fieldOf_settings]
  cases set : settingOf? environment field with
  | none => rw [h field set]
  | some v => rfl

/-! ### The file -/

def place (custom : Option String) : Program (Path.Spelling × Path.Place) := do
  let path ← fileOf custom
  return (path, ← path.follow)

def tableAt (parse : Parser) (path : Path.Spelling) : Path.Place → Except Fault Table
  | .file bytes => parseFile parse path bytes
  | .folder => .error (.settings (.folder path.text))
  | .tooLong => .error (.nameTooLong path.text)
  | .missing | .loop => .ok []

theorem contents_eq (parse : Parser) (custom : Option String) :
    contents parse custom = place custom >>= fun (path, there) =>
      match there with
      | .missing | .loop =>
        .log .debug .settings ("No config file at " ++ path.text ++ ", using defaults") >>= fun _ => pure []
      | there => ofExcept (tableAt parse path there) := by
  unfold contents place readFile
  simp only [bind_assoc]
  congr 1
  funext path
  congr 1
  funext there
  cases there <;> rfl

theorem outcome_contents (w : World σ) (st : σ) (parse : Parser) (custom : Option String) :
    ((contents parse custom).run w st).outcome =
      ((place custom).run w st).outcome >>= fun (path, there) => tableAt parse path there := by
  rw [contents_eq, run_bind]
  cases ((place custom).run w st).outcome with
  | error e => rfl
  | ok led =>
    obtain ⟨path, _ | _ | _ | _ | _⟩ := led <;> first | rfl | exact congrArg Run.outcome (run_ofExcept ..)

theorem settingOf?_subscription (environment : List (String × String)) :
    settingOf? environment "subscription_id" =
      ((rawOf environment ⟨"AZTEARDOWN_SUBSCRIPTION_ID", "subscription_id", .text⟩).or
        (rawOf environment ⟨"AZURE_SUBSCRIPTION_ID", "subscription_id", .text⟩)).map .text := by
  cases own : rawOf environment ⟨"AZTEARDOWN_SUBSCRIPTION_ID", "subscription_id", .text⟩ with
  | some raw => simp [settingOf?, knownVariables, converted?, Conversion.apply?, own]
  | none =>
    cases other : rawOf environment ⟨"AZURE_SUBSCRIPTION_ID", "subscription_id", .text⟩ with
    | some raw => simp [settingOf?, knownVariables, converted?, Conversion.apply?, own, other]
    | none => simp [settingOf?, knownVariables, own, other]

end Settings

namespace Command
open Settings

/-- Which settings a command runs under. Loading refuses the first variable that does not convert, and else reads
the file's table, which is what the parser makes of its bytes, with the environment over it. There a field is what
the environment sets it to, else what the file holds, else its default, so that what the file holds in a field set by
the environment does not matter, and the subscription is that of the program's own variable before that of the
provider's. The command then connects under the subscription it is given, if that is not empty, and else under the
loaded one; where loading fails, it does not connect at all. -/
theorem execute_by_precedence (w : World σ) (st : σ) (i : Invocation) (runtime : Runtime)
    (environment : List (String × String)) (t t' : Table) :
    ((contents runtime.parse i.config).run w st).outcome =
        (((place i.config).run w st).outcome >>= fun (path, there) => tableAt runtime.parse path there) ∧
      load i.config runtime = (contents runtime.parse i.config >>= fun t =>
        ask .host >>= fun host => layered runtime.levels host.environment t) ∧
      (∀ field, fieldOf (t.overlay (settings environment)) field =
        (((settingOf? environment field).or (t.get? field)).or (Table.get? defaults field)).getD .null) ∧
      ((∀ field, settingOf? environment field = none → t.get? field = t'.get? field) →
        Settings.read runtime.levels (t.overlay (settings environment)) =
          Settings.read runtime.levels (t'.overlay (settings environment))) ∧
      settingOf? environment "subscription_id" =
        ((rawOf environment ⟨"AZTEARDOWN_SUBSCRIPTION_ID", "subscription_id", .text⟩).or
          (rawOf environment ⟨"AZURE_SUBSCRIPTION_ID", "subscription_id", .text⟩)).map .text ∧
      match ((load i.config runtime).run w st).outcome with
      | .ok s => ConnectsUnder { s with subscription := subscriptionOf i.subscription s.subscription }
          ((execute i runtime).run w st)
      | .error _ => contacts ((execute i runtime).run w st).trace = [] := by
  refine ⟨outcome_contents w st runtime.parse i.config, load_layers i.config runtime,
    fieldOf_settings environment t, fun same => read_settings_congr same runtime.levels,
    settingOf?_subscription environment, ?_⟩
  exact connects_execute w st i runtime

end Command

end NodeReclaim
