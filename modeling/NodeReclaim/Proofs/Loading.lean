import NodeReclaim.Proofs.Runs
import NodeReclaim.Settings.Load

/-! What loaded settings are made of: the environment over a file over the defaults. Of two variables for one
field the one that stands later in the list counts, unless it is empty. -/
namespace NodeReclaim
open Program

namespace Table

@[simp] theorem get?_nil (name : String) : Table.get? [] name = none := rfl

@[simp] theorem get?_cons (e : String × Value) (t : Table) (name : String) :
    Table.get? (e :: t) name = if e.1 = name then some e.2 else Table.get? t name := by
  unfold Table.get?
  by_cases h : e.1 = name
  · rw [List.find?_cons_of_pos (by simpa using h), if_pos h]
    rfl
  · rw [List.find?_cons_of_neg (by simpa using h), if_neg h]

theorem get?_append (t₁ t₂ : Table) (name : String) :
    Table.get? (t₁ ++ t₂) name = (Table.get? t₁ name).or (Table.get? t₂ name) := by
  induction t₁ with
  | nil => rfl
  | cons e t₁ ih => by_cases h : e.1 = name <;> simp [h, ih]

theorem any_key_iff (t : Table) (key : String) :
    (t.any fun e => e.1 == key) = (Table.get? t key).isSome := by
  induction t with
  | nil => rfl
  | cons e t ih => by_cases h : e.1 = key <;> simp [h, ih]

theorem get?_replaced (t : Table) (key name : String) (v : Value) :
    Table.get? (t.map fun e => if e.1 == key then (key, v) else e) name =
      if key = name then (Table.get? t key).map fun _ => v else Table.get? t name := by
  induction t with
  | nil => simp
  | cons e t ih =>
    rw [List.map_cons, get?_cons, ih]
    by_cases he : e.1 = key
    · by_cases h : key = name <;> simp [he, h]
    · have kept : (if e.1 == key then (key, v) else e) = e := if_neg (by simpa using he)
      rw [kept, get?_cons, get?_cons]
      by_cases h : key = name
      · rw [← h, if_neg he, if_neg he]
      · rw [if_neg h, if_neg h]

theorem get?_put (t : Table) (key name : String) (v : Value) :
    (t.put key v).get? name = if key = name then some v else t.get? name := by
  unfold put
  rw [any_key_iff]
  split
  next held =>
    obtain ⟨w, hw⟩ := Option.isSome_iff_exists.1 held
    rw [get?_replaced, hw]
    rfl
  next missing =>
    have unheld : t.get? key = none := by simpa using missing
    rw [get?_append, get?_cons, get?_nil]
    by_cases h : key = name
    · rw [← h, unheld]
      rfl
    · simp [h]

theorem get?_overlay (t later : Table) (name : String) :
    (t.overlay later).get? name = (Table.get? later.reverse name).or (t.get? name) := by
  induction later generalizing t with
  | nil => rfl
  | cons e later ih =>
    change ((t.put e.1 e.2).overlay later).get? name = _
    rw [ih, get?_put, List.reverse_cons, get?_append, get?_cons, get?_nil, Option.or_assoc]
    by_cases h : e.1 = name <;> simp [h]

theorem keys_put (t : Table) (key : String) (v : Value) :
    (t.put key v).map (·.1) = if (t.get? key).isSome then t.map (·.1) else t.map (·.1) ++ [key] := by
  unfold put
  rw [any_key_iff]
  split
  · rw [List.map_map]
    apply List.map_congr_left
    intro e _
    by_cases h : e.1 = key <;> simp [h]
  · rw [List.map_append]
    rfl

theorem get?_eq_none_iff (t : Table) (name : String) : t.get? name = none ↔ name ∉ t.map (·.1) := by
  induction t with
  | nil => simp
  | cons e t ih => by_cases h : e.1 = name <;> simp [h, ih, eq_comm (a := name)]

theorem nodup_overlay {t : Table} (later : Table) (h : (t.map (·.1)).Nodup) : ((t.overlay later).map (·.1)).Nodup := by
  induction later generalizing t with
  | nil => exact h
  | cons e later ih =>
    apply ih (t := t.put e.1 e.2)
    rw [keys_put]
    split
    next => exact h
    next missing =>
      have unheld : e.1 ∉ t.map (·.1) := (get?_eq_none_iff t e.1).1 (by simpa using missing)
      refine List.nodup_append.2 ⟨h, by simp, ?_⟩
      intro key held new hnew same
      rw [same, List.mem_singleton.1 hnew] at held
      exact unheld held

theorem get?_reverse {t : Table} (h : (t.map (·.1)).Nodup) (name : String) :
    Table.get? t.reverse name = Table.get? t name := by
  induction t with
  | nil => rfl
  | cons e t ih =>
    obtain ⟨once, others⟩ := List.nodup_cons.1 h
    rw [List.reverse_cons, get?_append, ih others, get?_cons, get?_cons, get?_nil]
    by_cases he : e.1 = name
    · have missing : Table.get? t name = none := (get?_eq_none_iff t name).2 (he ▸ once)
      rw [missing, if_pos he]
      rfl
    · rw [if_neg he, if_neg he, Option.or_none]

end Table

namespace Settings

/-! ### The environment -/

def converted? (environment : List (String × String)) (v : Variable) : Option Value :=
  (rawOf environment v).bind v.conversion.apply?

def flaw? (environment : List (String × String)) (v : Variable) : Option (Variable × String) :=
  (rawOf environment v).bind fun raw =>
    match v.conversion.apply? raw with
    | some _ => none
    | none => some (v, raw)

def firstFlaw? (environment : List (String × String)) : Option (Variable × String) :=
  knownVariables.findSome? (flaw? environment)

/-- What the environment sets a field to: of the variables for it that are set and not empty the last one
counts. -/
def settingOf? (environment : List (String × String)) (field : String) : Option Value :=
  (knownVariables.reverse.find? fun v => v.field == field && (rawOf environment v).isSome).bind
    (converted? environment)

theorem overrideOf_eq (environment : List (String × String)) (v : Variable) :
    overrideOf environment v =
      match flaw? environment v with
      | some (v, raw) => .error (.unreadableVariable v.name raw)
      | none => .ok ((converted? environment v).map (v.field, ·)) := by
  unfold overrideOf flaw? converted?
  cases hr : rawOf environment v with
  | none => rfl
  | some raw => cases hc : v.conversion.apply? raw <;> simp [hc]

theorem mapM_overrideOf (environment : List (String × String)) (vs : List Variable) :
    vs.mapM (overrideOf environment) =
      match vs.findSome? (flaw? environment) with
      | some (v, raw) => .error (.unreadableVariable v.name raw)
      | none => .ok (vs.map fun v => (converted? environment v).map (v.field, ·)) := by
  induction vs with
  | nil => rfl
  | cons v vs ih =>
    rw [List.mapM_cons, overrideOf_eq, ih, List.findSome?_cons]
    cases flaw? environment v with
    | some found => rfl
    | none => cases vs.findSome? (flaw? environment) <;> rfl

theorem get?_converted {environment : List (String × String)} {vs : List Variable}
    (h : ∀ v ∈ vs, flaw? environment v = none) (field : String) :
    Table.get? (vs.filterMap fun v => (converted? environment v).map (v.field, ·)) field =
      (vs.find? fun v => v.field == field && (rawOf environment v).isSome).bind (converted? environment) := by
  induction vs with
  | nil => rfl
  | cons v vs ih =>
    have unflawed : flaw? environment v = none := h v List.mem_cons_self
    replace ih := ih fun u hu => h u (List.mem_cons_of_mem v hu)
    cases hr : rawOf environment v with
    | none =>
      have unset : converted? environment v = none := by simp [converted?, hr]
      simp [unset, hr, ih]
    | some raw =>
      obtain ⟨value, hv⟩ : ∃ value, v.conversion.apply? raw = some value := by
        apply Option.ne_none_iff_exists'.1
        intro hn
        simp [flaw?, hr, hn] at unflawed
      have set : converted? environment v = some value := by simp [converted?, hr, hv]
      by_cases hf : v.field = field <;> simp [set, hr, hf, ih]

/-- The environment is refused for its first variable that does not convert. Otherwise it sets every field
to the value of the variable that counts for it. -/
theorem overrides_eq (environment : List (String × String)) :
    match firstFlaw? environment with
    | some (v, raw) => overrides environment = .error (.unreadableVariable v.name raw)
    | none => ∃ changes, overrides environment = .ok changes ∧ (changes.map (·.1)).Nodup ∧
        ∀ field, changes.get? field = settingOf? environment field := by
  have mapped := mapM_overrideOf environment knownVariables
  unfold firstFlaw? overrides
  rw [mapped]
  cases hf : knownVariables.findSome? (flaw? environment) with
  | some found => rfl
  | none =>
    refine ⟨_, rfl, Table.nodup_overlay _ List.nodup_nil, fun field => ?_⟩
    have unflawed : ∀ v ∈ knownVariables.reverse, flaw? environment v = none := by
      intro v hv
      exact List.findSome?_eq_none_iff.1 hf v (List.mem_reverse.1 hv)
    have latest := get?_converted unflawed field
    rw [List.filterMap_reverse] at latest
    rw [Table.get?_overlay, List.filterMap_map, Table.get?_nil, Option.or_none]
    exact latest

/-! ### Fields -/

theorem fieldOf_overlay {changes : Table} (h : (changes.map (·.1)).Nodup) (t : Table) (field : String) :
    fieldOf (t.overlay changes) field =
      (((changes.get? field).or (t.get? field)).or (Table.get? defaults field)).getD .null := by
  unfold fieldOf
  rw [Table.get?_overlay, Table.get?_reverse h]

theorem read_congr (h : ∀ field, fieldOf t field = fieldOf t' field) (levels : Nat) :
    read levels t = read levels t' := by
  have same : fieldOf t = fieldOf t' := funext h
  unfold read
  rw [same]

end Settings

/-! ### What loading looks at -/

def isLookup : Request → Prop
  | .host | .look _ | .log _ => True
  | _ => False

namespace Path

theorem lookup_walk (links : Nat) (base : Path) (place : Place) (way : List String) :
    (walk links base place way).Within isLookup := by
  fun_induction walk links base place way with
  | case1 => trivial
  | case2 _ _ _ _ _ ih => exact ih
  | case3 _ _ _ _ _ _ ih => exact ih
  | case4 => trivial
  | case5 links base name rest _ _ _ next folder file link =>
    apply Within.bind (within_ask trivial)
    rintro (_ | _ | bytes | target)
    · trivial
    · exact folder
    · exact file bytes
    · cases links with
      | zero => trivial
      | succ links => simpa using link target
  | case6 => trivial

theorem lookup_follow (s : Spelling) : s.follow.Within isLookup := by
  unfold Spelling.follow
  split
  · trivial
  · exact lookup_walk _ _ _ _

theorem lookup_unlinked (nested : Nat) (base : Path) (links : Links) (way : List String) :
    (unlinked nested base links way).Within isLookup := by
  fun_induction unlinked nested base links way with
  | case1 => trivial
  | case2 _ _ _ _ _ _ ih => exact ih
  | case3 _ _ _ _ _ _ _ ih => exact ih
  | case4 nested base links name rest _ _ next link other =>
    apply Within.bind (within_ask trivial)
    rintro (_ | _ | bytes | target)
    · exact other
    · exact other
    · exact other
    · specialize link target
      dsimp only
      split at link
      · exact link
      · trivial
      · trivial
      · apply Within.bind (by simpa using link.1)
        intro inner
        split
        · exact link.2 inner
        · trivial

theorem lookup_start (host : Host) (s : String) : (start host s).Within isLookup := by
  unfold start
  split
  · trivial
  · split
    · trivial
    · split
      · apply Within.bind
        · unfold expandHome
          split
          · trivial
          · split <;> trivial
        · exact fun _ => trivial
      · trivial

theorem lookup_resolve (s : String) : (resolve s).Within isLookup := by
  apply Within.bind (within_ask trivial)
  intro host
  apply Within.bind (lookup_start host s)
  rintro ⟨base, way⟩
  dsimp only
  split
  · trivial
  · exact (lookup_unlinked _ _ _ _).bind fun _ => trivial

end Path

namespace Settings

theorem lookup_fileOf (custom : Option String) : (fileOf custom).Within isLookup := by
  unfold fileOf
  split
  · apply (Path.lookup_resolve _).bind
    intro path
    apply (Path.lookup_follow path).bind
    rintro (_ | _ | _ | _ | _) <;> trivial
  · exact Within.bind (within_ask trivial) fun _ => trivial

theorem lookup_readFile (parse : Parser) (path : Path.Spelling) : (readFile parse path).Within isLookup := by
  apply (Path.lookup_follow path).bind
  rintro (_ | _ | bytes | _ | _)
  · exact Within.bind (within_ask trivial) fun _ => trivial
  · trivial
  · exact within_ofExcept _
  · trivial
  · exact Within.bind (within_ask trivial) fun _ => trivial

theorem lookup_load (custom : Option String) (runtime : Runtime) : (load custom runtime).Within isLookup := by
  apply (lookup_fileOf custom).bind
  intro path
  apply (lookup_readFile runtime.parse path).bind
  intro t
  apply Within.bind (within_ask trivial)
  intro host
  apply (within_ofExcept _).bind
  intro changes
  unfold ofTable
  dsimp only
  split
  · exact within_ofExcept _
  · exact Within.bind (within_ask trivial) fun _ => within_ofExcept _

/-! ### The table that is loaded -/

def contents (parse : Parser) (custom : Option String) : Program Table := do
  readFile parse (← fileOf custom)

theorem load_eq (custom : Option String) (runtime : Runtime) :
    load custom runtime = contents runtime.parse custom >>= fun t => ask .host >>= fun host =>
      ofExcept ((overrides host.environment).mapError .settings) >>= fun changes =>
        ofTable (t.overlay changes) runtime.levels := by
  unfold load contents
  rw [bind_assoc]

end Settings
end NodeReclaim
