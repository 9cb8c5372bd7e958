import Mathlib.Data.List.Nodup
import NodeReclaim.Cleanup.Disks
import NodeReclaim.Proofs.Access
import NodeReclaim.Rehearsal.World

/-! The batch of a machine's disks: all deletions are asked for, then the pending jobs are confirmed.
Jobs are kept by the bare names of their disks, so among disks of one name in different groups only the
last pending job is confirmed, and the others are lost with whatever became of them. -/
namespace NodeReclaim.Cleanup
open Program

def jobName (p : Target × Ticket) : Option String :=
  match p.1.name with
  | .text name => some name
  | _ => none

def diskJob (p : Target × Ticket) : Job := .pending (some p.2) (Access.description .disk p.1)

/-- Pending deletions without those that a later one of the same name follows. -/
def lastOfName : List (Target × Ticket) → List (Target × Ticket)
  | [] => []
  | p :: rest =>
    if rest.any fun q => jobName q == jobName p then lastOfName rest else p :: lastOfName rest

theorem lastOfName_sublist (ps : List (Target × Ticket)) : (lastOfName ps).Sublist ps := by
  induction ps with
  | nil => exact .slnil
  | cons p rest ih =>
    unfold lastOfName
    split
    · exact ih.cons p
    · exact ih.cons_cons p

theorem length_lastOfName_iff (ps : List (Target × Ticket)) :
    (lastOfName ps).length = ps.length ↔ (ps.map jobName).Nodup := by
  induction ps with
  | nil => simp [lastOfName]
  | cons p rest ih =>
    have shorter := (lastOfName_sublist rest).length_le
    rw [List.map_cons, List.nodup_cons, ← ih, lastOfName]
    by_cases h : jobName p ∈ rest.map jobName
    · have named : (rest.any fun q => jobName q == jobName p) = true := by
        obtain ⟨q, hq, hn⟩ := List.mem_map.1 h
        exact List.any_eq_true.2 ⟨q, hq, beq_iff_eq.2 hn⟩
      rw [if_pos named, List.length_cons]
      constructor
      · intro hl
        omega
      · intro hn
        exact absurd h hn.1
    · have unnamed : ¬ (rest.any fun q => jobName q == jobName p) = true := by
        intro ha
        obtain ⟨q, hq, hn⟩ := List.any_eq_true.1 ha
        exact h (List.mem_map.2 ⟨q, hq, beq_iff_eq.1 hn⟩)
      rw [if_neg unnamed, List.length_cons, List.length_cons]
      constructor
      · intro hl
        exact ⟨h, by omega⟩
      · rintro ⟨_, hl⟩
        omega

namespace DiskJobs
variable {jobs : DiskJobs}

theorem map_other (h : name ∉ jobs.map Prod.fst) (job : Job) :
    (jobs.map fun j => if j.1 == name then (name, job) else j) = jobs := by
  have same : ∀ j ∈ jobs, (if j.1 == name then (name, job) else j) = j := by
    intro j hj
    rw [if_neg]
    intro hn
    exact h (List.mem_map.2 ⟨j, hj, beq_iff_eq.1 hn⟩)
  rw [List.map_congr_left same, List.map_id']

theorem filter_other (h : name ∉ jobs.map Prod.fst) : jobs.filter (fun j => j.1 != name) = jobs := by
  apply List.filter_eq_self.2
  intro j hj
  apply bne_iff_ne.2
  intro hn
  exact h (List.mem_map.2 ⟨j, hj, hn⟩)

theorem any_name_iff : (jobs.any fun j => j.1 == name) = true ↔ name ∈ jobs.map Prod.fst := by
  simp

theorem put_perm (h : (jobs.map Prod.fst).Nodup) (name : Option String) (job : Job) :
    (jobs.put name job).Perm (jobs.filter (fun j => j.1 != name) ++ [(name, job)]) := by
  unfold put
  by_cases hm : name ∈ jobs.map Prod.fst
  · rw [if_pos (any_name_iff.2 hm)]
    obtain ⟨⟨_, old⟩, hj, rfl⟩ := List.mem_map.1 hm
    obtain ⟨before, after, rfl⟩ := List.append_of_mem hj
    rw [List.map_append, List.map_cons, List.nodup_middle, List.nodup_cons, List.mem_append,
      not_or] at h
    obtain ⟨⟨hb, ha⟩, _⟩ := h
    rw [List.map_append, List.map_cons, map_other hb, map_other ha, List.filter_append,
      List.filter_cons, filter_other hb, filter_other ha]
    simp only [beq_self_eq_true, if_true, bne_self_eq_false]
    exact List.perm_middle.trans (List.perm_append_singleton ..).symm
  · rw [if_neg (mt any_name_iff.1 hm), filter_other hm]

theorem nodup_put (h : (jobs.map Prod.fst).Nodup) (name : Option String) (job : Job) :
    ((jobs.put name job).map Prod.fst).Nodup := by
  rw [((put_perm h name job).map Prod.fst).nodup_iff, List.map_append, List.nodup_append']
  refine ⟨h.sublist (List.filter_sublist.map _), List.nodup_singleton _, ?_⟩
  simp

/-- The batch: every pending deletion put under the name of its disk. -/
def putAll (jobs : DiskJobs) (ps : List (Target × Ticket)) : DiskJobs :=
  ps.foldl (fun jobs p => jobs.put (jobName p) (diskJob p)) jobs

/-- What is in the batch at the end: jobs from before that no pending deletion replaces, and of the
pending ones the last of each name. -/
theorem putAll_perm (h : (jobs.map Prod.fst).Nodup) (ps : List (Target × Ticket)) :
    (jobs.putAll ps).Perm
      (jobs.filter (fun j => ps.all fun p => j.1 != jobName p) ++
        (lastOfName ps).map fun p => (jobName p, diskJob p)) := by
  induction ps generalizing jobs with
  | nil => simp [putAll, lastOfName]
  | cons p rest ih =>
    apply (ih (nodup_put h (jobName p) (diskJob p))).trans
    apply (((put_perm h _ _).filter _).append_right _).trans
    have kept : (rest.all fun q => jobName p != jobName q) =
        !rest.any fun q => jobName q == jobName p := by
      rw [List.not_any_eq_all_not]
      apply congrArg rest.all
      funext q
      exact congrArg not BEq.comm
    have old : (jobs.filter fun j => j.1 != jobName p).filter
        (fun j => rest.all fun q => j.1 != jobName q) =
          jobs.filter fun j => (p :: rest).all fun q => j.1 != jobName q := by
      rw [List.filter_filter]
      apply congrArg (jobs.filter ·)
      funext j
      exact Bool.and_comm ..
    rw [List.filter_append, old, List.filter_cons, kept, lastOfName]
    cases rest.any fun q => jobName q == jobName p with
    | true => simp
    | false => simp

end DiskJobs

def Confirmed (s : Settings) : List (Job × Bool) → List Exchange → Prop
  | [], t => t = []
  | (job, deleted) :: rest, t =>
    ∃ t₁ t₂, t = t₁ ++ t₂ ∧ Runs (Access.confirm s job) t₁ (.ok deleted) ∧ Confirmed s rest t₂

/-- After every request each of the pending deletions is confirmed once, in some order, and the result
tells whether all of them were confirmed to be done. -/
def ConfirmsEach (s : Settings) (ps : List (Target × Ticket)) (t : List Exchange) (deleted : Bool) :
    Prop :=
  ∃ asking confirming closing verdicts, t = asking ++ (confirming ++ closing) ∧
    waits asking = [] ∧ waits closing = [] ∧ Confirmed s verdicts confirming ∧
    (verdicts.map Prod.fst).Perm (ps.map diskJob) ∧
    (deleted = true ↔ ∀ v ∈ verdicts, v.2 = true)

theorem length_waits_confirmed (h : Confirmed s verdicts t)
    (hj : ∀ v ∈ verdicts, ∃ p, v.1 = diskJob p) : (waits t).length = verdicts.length := by
  induction verdicts generalizing t with
  | nil =>
    cases h
    rfl
  | cons v rest ih =>
    obtain ⟨job, deleted⟩ := v
    obtain ⟨t₁, t₂, rfl, h₁, h₂⟩ := h
    obtain ⟨p, rfl⟩ := hj _ List.mem_cons_self
    rw [waits_append, Access.waits_confirm h₁, List.length_append,
      ih h₂ fun v hv => hj v (List.mem_cons_of_mem _ hv), List.length_cons, Nat.add_comm]
    rfl

theorem jobName_target (r : Reference) (ticket : Ticket) : jobName (r.target, ticket) = r.name := by
  unfold jobName Reference.target Value.ofOption
  cases r.name <;> rfl

theorem runs_requestDisk (h : Runs (requestDisk s jobs d) t (.ok jobs')) :
    jobs' = jobs.putAll (pendings t) ∧ waits t = [] := by
  obtain ⟨r, t₁, t₂, rfl, hr, h₁⟩ := runs_bind_ok_iff.1 h
  obtain ⟨rfl, _⟩ := runs_misuse_iff.1 hr
  obtain ⟨t₃, rfl, h₂⟩ := runs_log_bind_iff.1 h₁
  obtain ⟨job, t₄, t₅, rfl, hd, h₃⟩ := runs_bind_ok_iff.1 h₂
  obtain ⟨rfl, ho⟩ := h₃
  obtain ⟨reply, hf, hj⟩ := Access.runs_beginDelete hd
  rw [List.nil_append, List.append_nil]
  change jobs' = jobs.putAll (pendings t₄) ∧ waits t₄ = []
  rw [← pendings_foreign, ← waits_foreign, hf]
  cases ho
  refine ⟨?_, rfl⟩
  rcases reply with f | _ | ticket
  · unfold Access.jobOf at hj
    dsimp only at hj
    split at hj <;> cases hj
    rfl
  · cases hj
    rfl
  · cases hj
    change jobs.put r.name _ = jobs.put (jobName (r.target, ticket)) (diskJob (r.target, ticket))
    rw [jobName_target]
    rfl

theorem runs_requests {ds : List ManagedDisk}
    (h : Runs (ds.foldlM (requestDisk s) jobs) t (.ok jobs')) :
    jobs' = jobs.putAll (pendings t) ∧ waits t = [] := by
  induction ds generalizing jobs t with
  | nil =>
    obtain ⟨rfl, ho⟩ := h
    cases ho
    exact ⟨rfl, rfl⟩
  | cons d ds ih =>
    rw [List.foldlM_cons] at h
    obtain ⟨between, t₁, t₂, rfl, h₁, h₂⟩ := runs_bind_ok_iff.1 h
    obtain ⟨rfl, w₁⟩ := runs_requestDisk h₁
    obtain ⟨rfl, w₂⟩ := ih h₂
    rw [pendings_append, waits_append, w₁, w₂]
    exact ⟨(List.foldl_append ..).symm, rfl⟩

theorem runs_unconfirmed (h : Runs (unconfirmed s jobs) t (.ok failed)) :
    ∃ verdicts, Confirmed s verdicts t ∧ verdicts.map Prod.fst = jobs.map Prod.snd ∧
      (failed.isEmpty = true ↔ ∀ v ∈ verdicts, v.2 = true) := by
  induction jobs generalizing t failed with
  | nil =>
    obtain ⟨rfl, ho⟩ := h
    cases ho
    exact ⟨[], rfl, rfl, by simp⟩
  | cons j rest ih =>
    obtain ⟨deleted, t₁, t₂, rfl, h₁, h'⟩ := runs_bind_ok_iff.1 h
    obtain ⟨others, t₂, t₃, rfl, h₂, h''⟩ := runs_bind_ok_iff.1 h'
    obtain ⟨rfl, ho⟩ := h''
    obtain ⟨verdicts, hc, hj, hb⟩ := ih h₂
    have names : ((j.2, deleted) :: verdicts).map Prod.fst = (j :: rest).map Prod.snd := by
      rw [List.map_cons, hj]
      rfl
    refine ⟨(j.2, deleted) :: verdicts, ⟨t₁, t₂, by simp, h₁, hc⟩, names, ?_⟩
    cases ho
    cases deleted with
    | false => simp
    | true => simpa using hb

theorem runs_conclusion {failed : List (Option String)}
    (h : Runs (do
      unless failed.isEmpty do
        logTrouble ("could not delete disks: " ++ (← misuse (listed failed)))
      return failed.isEmpty) t (.ok deleted)) :
    deleted = failed.isEmpty ∧ waits t = [] ∧ pendings t = [] := by
  split at h
  · obtain ⟨rfl, ho⟩ := h
    cases ho
    exact ⟨rfl, rfl, rfl⟩
  · obtain ⟨text, t₁, t₂, rfl, h₁, h₂⟩ := runs_bind_ok_iff.1 h
    obtain ⟨rfl, _⟩ := runs_misuse_iff.1 h₁
    obtain ⟨_, rfl, rfl, ho⟩ := runs_log_bind_iff.1 h₂
    cases ho
    exact ⟨rfl, rfl, rfl⟩

theorem pendings_of_followUp {p : Program α} (hp : p.Within Access.isFollowUp) (h : Runs p t o) :
    pendings t = [] :=
  hp.filterMap_eq_nil (fun r _ hr => by cases r <;> first | rfl | cases hr) h

theorem within_unconfirmed (s : Settings) (jobs : DiskJobs) :
    (unconfirmed s jobs).Within Access.isFollowUp := by
  induction jobs with
  | nil => trivial
  | cons j rest ih =>
    exact .bind (Access.within_confirm s j.2) fun _ => .bind ih fun _ => trivial

theorem confirmsEach_lastOfName (h : Runs (disks s m) t (.ok deleted)) :
    ConfirmsEach s (lastOfName (pendings t)) t deleted := by
  obtain ⟨jobs, asking, t₂, rfl, h₁, h₂⟩ := runs_bind_ok_iff.1 h
  obtain ⟨failed, confirming, closing, rfl, h₃, h₄⟩ := runs_bind_ok_iff.1 h₂
  obtain ⟨rfl, asked⟩ := runs_requests h₁
  obtain ⟨verdicts, confirmed, hj, hv⟩ := runs_unconfirmed h₃
  obtain ⟨rfl, closed, none_asked⟩ := runs_conclusion h₄
  have all : pendings (asking ++ (confirming ++ closing)) = pendings asking := by
    rw [pendings_append, pendings_append, none_asked,
      pendings_of_followUp (within_unconfirmed s _) h₃, List.append_nil, List.append_nil]
  refine ⟨asking, confirming, closing, verdicts, rfl, asked, closed, confirmed, ?_, hv⟩
  rw [all, hj]
  have empty : (([] : DiskJobs).map Prod.fst).Nodup := List.nodup_nil
  have batch := (DiskJobs.putAll_perm empty (pendings asking)).map Prod.snd
  rwa [List.filter_nil, List.nil_append, List.map_map] at batch

theorem length_waits_confirmsEach (h : ConfirmsEach s ps t deleted) :
    (waits t).length = ps.length := by
  obtain ⟨asking, confirming, closing, verdicts, rfl, asked, closed, confirmed, hj, _⟩ := h
  have jobs : ∀ v ∈ verdicts, ∃ p, v.1 = diskJob p := by
    intro v hv
    obtain ⟨p, _, hp⟩ := List.mem_map.1 (hj.subset (List.mem_map_of_mem hv))
    exact ⟨p, hp.symm⟩
  rw [waits_append, waits_append, asked, closed, List.nil_append, List.append_nil,
    length_waits_confirmed confirmed jobs, ← List.length_map Prod.fst, hj.length_eq, List.length_map]

/-- A batch that returns has confirmed the last pending deletion of each name, and its result tells
whether these are done. So every pending deletion is confirmed exactly when their names differ. -/
theorem disks_confirmsEach_iff (w : World σ) (st : σ) (s : Settings) (m : Machine) :
    let r := (disks s m).run w st
    match r.outcome with
    | .ok deleted =>
      ConfirmsEach s (lastOfName (pendings r.trace)) r.trace deleted ∧
        (ConfirmsEach s (pendings r.trace) r.trace deleted ↔
          ((pendings r.trace).map jobName).Nodup)
    | .error _ => True := by
  intro r
  have h : Runs (disks s m) r.trace r.outcome := runs_run w _ st
  cases ho : r.outcome with
  | error e => trivial
  | ok deleted =>
    rw [ho] at h
    have last := confirmsEach_lastOfName h
    refine ⟨last, ?_, ?_⟩
    · intro each
      rw [← length_lastOfName_iff, ← length_waits_confirmsEach each, length_waits_confirmsEach last]
    · intro distinct
      have kept := (lastOfName_sublist _).eq_of_length (length_lastOfName_iff _ |>.2 distinct)
      rwa [kept] at last

def namesakes : Machine where
  name := .text "vm1"
  group := .text "rg1"
  interfaces := []
  osDisk := ⟨.text "os", some ⟨.text "/resourceGroups/rg1/providers/p/disks/data"⟩⟩
  dataDisks := [⟨.text "extra", some ⟨.text "/resourceGroups/rg2/providers/p/disks/data"⟩⟩]
  availabilitySet := none

def namesakeStore : Rehearsal.Store where
  objects := [(.disk, "rg1/data", .record []), (.disk, "rg2/data", .record [])]
  scripts :=
    [("delete disk rg1/data",
      [{ blank := false, course := { waitFault := some (.raised .http (some "in use") none) } }])]

/-- The failure is lost: both deletions are pending, one is waited for, and the result is true. -/
theorem namesakes_lose_failure :
    let r := (disks plainSettings namesakes).run rehearsal namesakeStore
    r.outcome = .ok true ∧ ¬ ConfirmsEach plainSettings (pendings r.trace) r.trace true := by
  refine ⟨rfl, fun each => ?_⟩
  have counts : 1 = 2 := length_waits_confirmsEach each
  omega

end NodeReclaim.Cleanup
