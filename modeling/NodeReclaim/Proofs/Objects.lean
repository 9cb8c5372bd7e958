import NodeReclaim.Access
import NodeReclaim.Proofs.Runs

/-! What the provider's objects say about the resources they belong to, read straight off their
fields, and that the snapshots say the same. -/
namespace NodeReclaim
open Value

def entries (collection : Value) : List Value := collection.items?.getD []

def idOf? (object : Value) : Option String :=
  match object.field "id" with
  | .text id => if id.isEmpty then none else some id
  | _ => none

def placeOf (id : String) : Target := (Reference.create id).target

def memberIds (collection : Value) : List String := (entries collection).filterMap idOf?

def interfaceIds (vm : Value) : List String :=
  memberIds ((vm.field "network_profile").field "network_interfaces")

def publicIpIds (nic : Value) : List String :=
  ((entries (nic.field "ip_configurations")).filterMap fun c =>
    idOf? (c.field "public_ip_address")).eraseDups

def diskIds (vm : Value) : List String :=
  let storage := vm.field "storage_profile"
  (storage.field "os_disk" :: entries (storage.field "data_disks")).filterMap fun d =>
    idOf? (d.field "managed_disk")

def availabilitySetId? (vm : Value) : Option String := idOf? (vm.field "availability_set")

/-- Whether the value at the ownership key of a set's tags, null when there is none, is the
ownership value. -/
def isOwned (s : Settings) (set : Value) : Bool :=
  match Tags.ofValue? (set.field "tags"), s.ownershipKey.asKey with
  | .ok (some tags), .ok key => ((tags.get? key).getD .null).same s.ownershipValue
  | _, _ => false

namespace Value

theorem elements_eq_entries (h : elements v = .ok items) : items = entries v := by
  unfold elements entries at *
  cases hv : v.items? with
  | some items' =>
    rw [hv] at h
    cases h
    rfl
  | none =>
    rw [hv] at h
    dsimp only at h
    split at h <;> cases h
    rfl

theorem field_of_required (h : required v name = .ok w) : v.field name = w := by
  unfold required field at *
  cases hv : v.field? name <;> rw [hv] at h <;> cases h
  rfl

end Value

theorem filterMap_of_mapM {f : α → Except ε β} {kept : β → Option γ} {shown : α → Option γ}
    (hf : ∀ a b, f a = .ok b → kept b = shown a) {as : List α} {bs : List β}
    (h : as.mapM f = .ok bs) : bs.filterMap kept = as.filterMap shown := by
  induction as generalizing bs with
  | nil =>
    cases h
    rfl
  | cons a as ih =>
    rw [List.mapM_cons] at h
    obtain ⟨b, hb, h⟩ := ok_of_bind h
    obtain ⟨rest, hrest, h⟩ := ok_of_bind h
    cases h
    rw [List.filterMap_cons, List.filterMap_cons, hf a b hb, ih hrest]

namespace Reference

theorem create_injective {a b : String} (h : create a = create b) : a = b := congrArg id h

theorem ofObject_eq (h : ofObject object = .ok r) : r = (idOf? object).map create := by
  unfold ofObject idOf? at *
  generalize object.field "id" = v at *
  dsimp only at h
  split at h
  next ht =>
    cases v with
    | text s =>
      cases h
      have hs : s.isEmpty = false := by simpa [isTruthy] using ht
      simp [hs]
    | _ => cases h
  next ht =>
    cases h
    cases v with
    | text s =>
      have hs : s.isEmpty = true := by simpa [isTruthy] using ht
      simp [hs]
    | _ => rfl

theorem ofCollection_eq (h : ofCollection collection = .ok refs) :
    refs = (memberIds collection).map create := by
  obtain ⟨items, hi, h⟩ := ok_of_bind h
  obtain ⟨rs, hr, h⟩ := ok_of_bind h
  cases h
  rw [filterMap_of_mapM (fun _ _ => ofObject_eq) hr, elements_eq_entries hi, memberIds,
    List.map_filterMap]

theorem ofCollection?_eq (h : ofCollection? collection = .ok refs) :
    refs.getD [] = (memberIds collection).map create := by
  unfold ofCollection? at h
  split at h
  · cases h
    rfl
  · cases hc : ofCollection collection with
    | error m => rw [hc] at h; cases h
    | ok rs =>
      rw [hc] at h
      cases h
      exact ofCollection_eq hc

end Reference

/-- A disk whose identifier is no text is kept but has no reference. -/
theorem ManagedDisk.reference_ofObject (object : Value) :
    ((ofObject object).bind fun d => d.reference.toOption) =
      (idOf? object).map Reference.create := by
  unfold ofObject idOf? reference
  generalize object.field "id" = v
  dsimp only
  split
  next ht =>
    cases v with
    | text s =>
      have hs : s.isEmpty = false := by simpa [isTruthy] using ht
      simp [hs, Reference.ofValue, Except.toOption]
    | _ => rfl
  next ht =>
    cases v with
    | text s =>
      have hs : s.isEmpty = true := by simpa [isTruthy] using ht
      simp [hs]
    | _ => rfl

structure Machine.Shows (m : Machine) (vm place : Value) : Prop where
  name : m.name = vm.field "name"
  group : m.group = place
  interfaces : m.interfaces = (interfaceIds vm).map Reference.create
  availabilitySet : m.availabilitySet = (availabilitySetId? vm).map Reference.create
  disks : m.managedDisks.filterMap (fun d => d.reference.toOption) =
    (diskIds vm).map Reference.create

theorem Machine.shows_of_ofObject (h : Machine.ofObject vm place = .ok m) : m.Shows vm place := by
  obtain ⟨name, hn, h⟩ := ok_of_bind h
  obtain ⟨interfaces, hi, h⟩ := ok_of_bind h
  obtain ⟨dataDisks, hd, h⟩ := ok_of_bind h
  obtain ⟨set, hs, h⟩ := ok_of_bind h
  cases h
  exact {
    name := (field_of_required hn).symm
    group := rfl
    interfaces := Reference.ofCollection_eq hi
    availabilitySet := Reference.ofObject_eq hs
    disks := by
      show ((Disk.ofObject _ :: dataDisks.map Disk.ofObject).filterMap _).filterMap _ = _
      rw [elements_eq_entries hd, ← List.map_cons, List.filterMap_map, List.filterMap_filterMap,
        diskIds, List.map_filterMap]
      exact congrArg (List.filterMap · _) (funext fun d => ManagedDisk.reference_ofObject _) }

namespace Machine.Shows
variable (h : Machine.Shows m vm place)
include h

theorem interfaceTargets : (interfaceIds vm).map placeOf = m.interfaces.map Reference.target := by
  rw [h.interfaces, List.map_map]
  rfl

theorem diskTargets : (diskIds vm).map placeOf =
    (m.managedDisks.filterMap fun d => d.reference.toOption).map Reference.target := by
  rw [h.disks, List.map_map]
  rfl

theorem sharedTarget : (availabilitySetId? vm).map placeOf = m.availabilitySet.map Reference.target := by
  rw [h.availabilitySet, Option.map_map]
  rfl

end Machine.Shows

theorem IpConfiguration.publicIp_ofObject (h : ofObject object = .ok c) :
    c.publicIp = (idOf? (object.field "public_ip_address")).map Reference.create := by
  obtain ⟨r, hr, h⟩ := ok_of_bind h
  cases h
  exact Reference.ofObject_eq hr

theorem eraseDups_map {f : α → β} [BEq α] [LawfulBEq α] [BEq β] [LawfulBEq β]
    (hf : ∀ a b, f a = f b → a = b) (l : List α) :
    (l.map f).eraseDups = l.eraseDups.map f := by
  match l with
  | [] => rfl
  | a :: rest =>
    have same : ((fun b => !b == f a) ∘ f) = fun b => !b == a := by
      funext b
      by_cases hb : b = a
      · simp [hb]
      · have hfb : f b ≠ f a := fun h => hb (hf _ _ h)
        rw [Function.comp_apply, beq_eq_false_iff_ne.2 hfb, beq_eq_false_iff_ne.2 hb]
    rw [List.map_cons, List.eraseDups_cons, List.eraseDups_cons, List.filter_map, same,
      eraseDups_map hf (rest.filter _), List.map_cons]
termination_by l.length
decreasing_by exact Nat.lt_succ_of_le (List.length_filter_le _ rest)

theorem Interface.publicIps_ofObject (h : ofObject nic = .ok n) :
    n.publicIps = (publicIpIds nic).map Reference.create := by
  obtain ⟨items, hi, h⟩ := ok_of_bind h
  obtain ⟨configurations, hc, h⟩ := ok_of_bind h
  obtain ⟨name, _, h⟩ := ok_of_bind h
  cases h
  rw [publicIps, filterMap_of_mapM (fun _ _ => IpConfiguration.publicIp_ofObject) hc,
    ← List.map_filterMap, eraseDups_map fun _ _ => Reference.create_injective, publicIpIds,
    elements_eq_entries hi]

theorem AvailabilitySet.tags_ofObject (h : ofObject v = .ok a) :
    Tags.ofValue? (v.field "tags") = .ok a.tags := by
  obtain ⟨name, _, h⟩ := ok_of_bind h
  obtain ⟨tags, ht, h⟩ := ok_of_bind h
  obtain ⟨members, _, h⟩ := ok_of_bind h
  cases h
  exact ht

theorem AvailabilitySet.isEmpty_ofObject (h : ofObject v = .ok a) :
    a.isEmpty = (memberIds (v.field "virtual_machines")).isEmpty := by
  obtain ⟨name, _, h⟩ := ok_of_bind h
  obtain ⟨tags, _, h⟩ := ok_of_bind h
  obtain ⟨members, hm, h⟩ := ok_of_bind h
  cases h
  rw [isEmpty, Reference.ofCollection?_eq hm, List.isEmpty_map]

/-- A set whose ownership cannot be told does not count as owned. -/
theorem AvailabilitySet.isOwned_ofObject (h : ofObject v = .ok a) :
    isOwned s v = (a.hasTag s.ownershipKey s.ownershipValue).toOption.getD false := by
  rw [isOwned, tags_ofObject h, hasTag]
  cases a.tags with
  | none => rfl
  | some tags => cases s.ownershipKey.asKey <;> rfl

theorem SecurityGroup.isInUse_ofObject (h : ofObject v = .ok a) :
    a.isInUse = !(memberIds (v.field "network_interfaces")).isEmpty := by
  obtain ⟨name, _, h⟩ := ok_of_bind h
  obtain ⟨interfaces, hi, h⟩ := ok_of_bind h
  cases h
  rw [isInUse, Reference.ofCollection?_eq hi, List.isEmpty_map]

/-! ### Objects of their kind

What a provider normally returns: an object has a name, which of a machine is a text, its collections can be gone
through and its tags be read, and an identifier is a text or absent. -/

def HasPlainId (object : Value) : Prop :=
  object.field "id" = .null ∨ ∃ id, object.field "id" = .text id

def IsCollection (v : Value) : Prop := ∃ items, v.elements = .ok items

structure IsMachine (vm : Value) : Prop where
  name : ∃ name, vm.field? "name" = some (.text name)
  interfaces : IsCollection ((vm.field "network_profile").field "network_interfaces")
  interfaceIds : ∀ x ∈ entries ((vm.field "network_profile").field "network_interfaces"),
    HasPlainId x
  dataDisks : IsCollection ((vm.field "storage_profile").field "data_disks")
  diskIds : ∀ d ∈ (vm.field "storage_profile").field "os_disk" ::
    entries ((vm.field "storage_profile").field "data_disks"), HasPlainId (d.field "managed_disk")
  availabilitySet : HasPlainId (vm.field "availability_set")

structure IsInterface (nic : Value) : Prop where
  name : ∃ name, nic.field? "name" = some name
  configurations : IsCollection (nic.field "ip_configurations")
  publicIpIds : ∀ c ∈ entries (nic.field "ip_configurations"),
    HasPlainId (c.field "public_ip_address")

structure IsAvailabilitySet (set : Value) : Prop where
  name : ∃ name, set.field? "name" = some name
  tags : ∃ tags, Tags.ofValue? (set.field "tags") = .ok tags
  members : IsCollection (set.field "virtual_machines")
  memberIds : ∀ x ∈ entries (set.field "virtual_machines"), HasPlainId x

theorem required_of_field? {v : Value} (h : v.field? name = some w) : v.required name = .ok w := by
  unfold required
  rw [h]

theorem IsCollection.elements_eq (h : IsCollection v) : v.elements = .ok (entries v) := by
  obtain ⟨items, hi⟩ := h
  rw [hi, elements_eq_entries hi]

theorem exists_mapM {f : α → Except ε β} {as : List α} (h : ∀ a ∈ as, ∃ b, f a = .ok b) :
    ∃ bs, as.mapM f = .ok bs := by
  induction as with
  | nil => exact ⟨[], rfl⟩
  | cons a as ih =>
    obtain ⟨b, hb⟩ := h a List.mem_cons_self
    obtain ⟨bs, hbs⟩ := ih fun x hx => h x (List.mem_cons_of_mem a hx)
    refine ⟨b :: bs, ?_⟩
    rw [List.mapM_cons, hb, hbs]
    rfl

namespace Reference

theorem exists_ofObject (h : HasPlainId object) : ∃ r, ofObject object = .ok r := by
  unfold ofObject
  rcases h with h | ⟨id, h⟩
  · rw [h]
    exact ⟨none, rfl⟩
  · rw [h]
    dsimp only
    split
    · exact ⟨some (create id), rfl⟩
    · exact ⟨none, rfl⟩

theorem exists_ofCollection (h : IsCollection v) (hids : ∀ x ∈ entries v, HasPlainId x) :
    ∃ refs, ofCollection v = .ok refs := by
  obtain ⟨rs, hr⟩ := exists_mapM fun x hx => exists_ofObject (hids x hx)
  unfold ofCollection
  rw [h.elements_eq]
  change ∃ refs, ((entries v).mapM ofObject >>= _) = .ok refs
  rw [hr]
  exact ⟨_, rfl⟩

theorem exists_ofCollection? (h : IsCollection v) (hids : ∀ x ∈ entries v, HasPlainId x) :
    ∃ refs, ofCollection? v = .ok refs := by
  obtain ⟨refs, hr⟩ := exists_ofCollection h hids
  unfold ofCollection?
  split
  · exact ⟨none, rfl⟩
  · rw [hr]
    exact ⟨some refs, rfl⟩

end Reference

theorem ManagedDisk.exists_reference (h : HasPlainId object)
    (hd : ManagedDisk.ofObject object = some d) : ∃ r, d.reference = .ok r := by
  unfold ManagedDisk.ofObject at hd
  rcases h with h | ⟨id, h⟩
  · rw [h] at hd
    cases hd
  · rw [h] at hd
    dsimp only at hd
    split at hd
    · cases hd
      exact ⟨Reference.create id, rfl⟩
    · cases hd

theorem Machine.exists_ofObject (h : IsMachine vm) (place : Value) :
    ∃ m, Machine.ofObject vm place = .ok m ∧ ∀ d ∈ m.managedDisks, ∃ r, d.reference = .ok r := by
  obtain ⟨name, held⟩ := h.name
  have hn := required_of_field? held
  obtain ⟨interfaces, hi⟩ := Reference.exists_ofCollection h.interfaces h.interfaceIds
  obtain ⟨set, hs⟩ := Reference.exists_ofObject h.availabilitySet
  unfold Machine.ofObject
  dsimp only
  rw [hn, hi, h.dataDisks.elements_eq, hs]
  refine ⟨_, rfl, ?_⟩
  intro d hd
  obtain ⟨disk, hmem, hdisk⟩ := List.mem_filterMap.1 hd
  change disk ∈ (_ :: entries _).map Disk.ofObject at hmem
  obtain ⟨object, hobject, rfl⟩ := List.mem_map.1 hmem
  exact ManagedDisk.exists_reference (h.diskIds object hobject) hdisk

theorem IpConfiguration.exists_ofObject (h : HasPlainId (object.field "public_ip_address")) :
    ∃ c, IpConfiguration.ofObject object = .ok c := by
  obtain ⟨r, hr⟩ := Reference.exists_ofObject h
  unfold IpConfiguration.ofObject
  rw [hr]
  exact ⟨_, rfl⟩

theorem Interface.exists_ofObject (h : IsInterface nic) : ∃ n, Interface.ofObject nic = .ok n := by
  obtain ⟨name, held⟩ := h.name
  have hn := required_of_field? held
  obtain ⟨cs, hc⟩ := exists_mapM fun c hc => IpConfiguration.exists_ofObject (h.publicIpIds c hc)
  unfold Interface.ofObject
  rw [h.configurations.elements_eq]
  change ∃ n, ((entries (nic.field "ip_configurations")).mapM IpConfiguration.ofObject >>= _) = .ok n
  rw [hc, hn]
  exact ⟨_, rfl⟩

theorem AvailabilitySet.exists_ofObject (h : IsAvailabilitySet v) :
    ∃ a, AvailabilitySet.ofObject v = .ok a := by
  obtain ⟨name, held⟩ := h.name
  have hn := required_of_field? held
  obtain ⟨tags, ht⟩ := h.tags
  obtain ⟨members, hm⟩ := Reference.exists_ofCollection? h.members h.memberIds
  unfold AvailabilitySet.ofObject
  rw [hn, ht, hm]
  exact ⟨_, rfl⟩

end NodeReclaim
