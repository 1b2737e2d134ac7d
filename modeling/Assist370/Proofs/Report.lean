import Assist370.Proofs.Counting

/-!
# Reports over runs

A report lists those assists of a class that have been called, the busiest first and equally busy
ones in the order of the registry. The others are counted but not listed. They have no calls, and in
a registry that has been counted along a run they have no hits either. So the totals of a report are
those of the whole class (`Registry.statistics_complete`).
-/

namespace Assist370

/-- The assists of a class, in the order of the registry. -/
def AssistClass.members (family : AssistClass) : List Assist :=
  Assist.all.filter fun assist => assist.family == family

theorem AssistClass.mem_members {family : AssistClass} {assist : Assist} :
    assist ∈ family.members ↔ assist.family = family := by
  rw [members, List.mem_filter, and_iff_right assist.mem_all, beq_iff_eq]

theorem AssistClass.members_ordered (family : AssistClass) :
    family.members.Pairwise fun earlier later => earlier.index < later.index := by
  have ordered : Assist.all.Pairwise fun earlier later => earlier.index < later.index := by decide
  exact ordered.filter _

section Sorting

variable {α : Type} (key : α → Nat) (items : List α)

/-- The items with the greatest keys first. -/
def byFalling : List α :=
  items.mergeSort fun left right => decide (key right ≤ key left)

theorem byFalling_perm : (byFalling key items).Perm items :=
  List.mergeSort_perm _ _

theorem byFalling_falling :
    (byFalling key items).Pairwise fun earlier later => key later ≤ key earlier := by
  have sorted := @List.pairwise_mergeSort α (fun left right => decide (key right ≤ key left))
    (by grind) (by grind) items
  exact sorted.imp fun {earlier later} falls => of_decide_eq_true falls

/-- Items with the same key stay in their order. -/
theorem filter_byFalling (value : Nat) :
    (byFalling key items).filter (fun item => key item == value) =
      items.filter fun item => key item == value := by
  have stays : (items.filter fun item => key item == value).Sublist (byFalling key items) := by
    apply List.sublist_mergeSort (by grind) (by grind) _ List.filter_sublist
    apply List.pairwise_of_forall_mem_list
    intro left left_mem right right_mem
    grind
  have filtered := stays.filter fun item => key item == value
  rw [List.filter_filter] at filtered
  simp only [Bool.and_self] at filtered
  exact (filtered.eq_of_length ((byFalling_perm key items).filter _).length_eq.symm).symm

/-- Items that come one before the other in some order come so with the same key. -/
theorem byFalling_ordered {before : α → α → Prop} (ordered : items.Pairwise before) :
    (byFalling key items).Pairwise fun earlier later =>
      key later < key earlier ∨ key later = key earlier ∧ before earlier later := by
  rw [List.pairwise_iff_forall_sublist]
  intro earlier later sub
  have falls := List.pairwise_iff_forall_sublist.mp (byFalling_falling key items) sub
  rcases Nat.lt_or_eq_of_le falls with less | same
  · exact .inl less
  · refine .inr ⟨same, ?_⟩
    have filtered := sub.filter fun item => key item == key earlier
    rw [filter_byFalling] at filtered
    simp only [List.filter_cons, same, beq_self_eq_true, if_true, List.filter_nil] at filtered
    exact List.pairwise_iff_forall_sublist.mp (ordered.filter _) filtered

end Sorting

namespace AssistStatistic

variable {counter : AssistStatistic → Nat}

theorem total_perm {first second : List AssistStatistic} (perm : first.Perm second) :
    total counter first = total counter second := by
  induction perm with
  | nil => rfl
  | cons statistic _ ih => simp only [total, ih]
  | swap statistic other rest => simp only [total, Nat.add_left_comm]
  | trans _ _ ihFirst ihSecond => exact ihFirst.trans ihSecond

/-- What adds nothing can be left out. -/
theorem total_filter {kept : AssistStatistic → Bool} {statistics : List AssistStatistic}
    (nothing : ∀ statistic ∈ statistics, kept statistic = false → counter statistic = 0) :
    total counter (statistics.filter kept) = total counter statistics := by
  induction statistics with
  | nil => rfl
  | cons statistic rest ih =>
      have tail := ih fun other other_mem => nothing other (by simp [other_mem])
      rw [List.filter_cons]
      cases isKept : kept statistic with
      | true => simp only [if_true, total, tail]
      | false =>
          have zero := nothing statistic (by simp) isKept
          simp only [Bool.false_eq_true, if_false, total, tail, zero, Nat.zero_add]

end AssistStatistic

/-- What a line of a report shows for its counters: a percentage rounded down, which words of 64
bits have room for computing while the calls are below `2 ^ 57`. On the line of the totals the calls
are the sum of the listed counters, and the bound is on that sum, not on each of the counters. -/
structure ShowsRatio (calls hits : Nat) : Prop where
  floor : calls ≠ 0 →
    ratio calls hits * calls ≤ 100 * hits ∧ 100 * hits < (ratio calls hits + 1) * calls
  isPercentage : IsPercentage calls hits

theorem showsRatio {calls hits : Nat} (hits_le : hits ≤ calls) : ShowsRatio calls hits where
  floor called := by
    rw [ratio, if_neg called, Nat.mul_comm hits]
    refine ⟨Nat.div_mul_le_self _ _, ?_⟩
    exact Nat.lt_mul_of_div_lt (Nat.lt_succ_self _) (Nat.pos_of_ne_zero called)
  isPercentage := isPercentage hits_le

namespace Registry

variable {registry : Registry}

/-- What a report of a class tells of the registry. -/
structure Reports (registry : Registry) (family : AssistClass) (report : StatisticsReport) :
    Prop where
  family_eq : report.family = family
  mem_iff : ∀ statistic, statistic ∈ report.entries ↔
    ∃ assist : Assist, assist.family = family ∧ (registry.entry assist).calls ≠ 0 ∧
      statistic = registry.statistic assist
  nodup : (report.entries.map AssistStatistic.assist).Nodup
  ordered : report.entries.Pairwise fun earlier later =>
    later.calls < earlier.calls ∨
      later.calls = earlier.calls ∧ earlier.assist.index < later.assist.index
  size : report.entries.length + report.notShown = family.members.length
  totalCalls : report.totalCalls =
    AssistStatistic.total AssistStatistic.calls (family.members.map registry.statistic)
  totalHits : report.totalHits =
    AssistStatistic.total AssistStatistic.hits (family.members.map registry.statistic)
  unsupportedCalls : report.unsupportedCalls =
    AssistStatistic.total AssistStatistic.calls
      ((family.members.filter fun assist => !assist.isSupported).map registry.statistic)
  entryLine : ∀ statistic ∈ report.entries, ShowsRatio statistic.calls statistic.hits
  totalLine : ShowsRatio report.totalCalls report.totalHits

section Entries

variable (registry) (family : AssistClass)

/-- The statistics of all assists of a class. -/
def classStatistics : List AssistStatistic :=
  family.members.map registry.statistic

theorem entries_eq : (registry.statistics family).entries =
    byFalling AssistStatistic.calls
      ((registry.classStatistics family).filter fun statistic => statistic.calls != 0) :=
  rfl

theorem entries_perm : (registry.statistics family).entries.Perm
    ((registry.classStatistics family).filter fun statistic => statistic.calls != 0) := by
  rw [entries_eq]
  exact byFalling_perm _ _

theorem mem_entries (statistic : AssistStatistic) :
    statistic ∈ (registry.statistics family).entries ↔
      ∃ assist : Assist, assist.family = family ∧ (registry.entry assist).calls ≠ 0 ∧
        statistic = registry.statistic assist := by
  rw [(registry.entries_perm family).mem_iff, List.mem_filter, classStatistics, List.mem_map,
    bne_iff_ne]
  constructor
  · rintro ⟨⟨assist, isMember, rfl⟩, called⟩
    exact ⟨assist, AssistClass.mem_members.mp isMember, called, rfl⟩
  · rintro ⟨assist, isMember, called, rfl⟩
    exact ⟨⟨assist, AssistClass.mem_members.mpr isMember, rfl⟩, called⟩

theorem entries_ordered : (registry.statistics family).entries.Pairwise fun earlier later =>
    later.calls < earlier.calls ∨
      later.calls = earlier.calls ∧ earlier.assist.index < later.assist.index := by
  have ordered : (registry.classStatistics family).Pairwise fun earlier later =>
      earlier.assist.index < later.assist.index :=
    List.pairwise_map.mpr family.members_ordered
  exact byFalling_ordered _ _ (ordered.filter _)

theorem entries_nodup :
    ((registry.statistics family).entries.map AssistStatistic.assist).Nodup := by
  apply List.pairwise_map.mpr
  refine (registry.entries_ordered family).imp_of_mem ?_
  intro earlier later earlier_mem later_mem apart same
  rcases (registry.mem_entries family earlier).mp earlier_mem with ⟨assist, -, -, rfl⟩
  rcases (registry.mem_entries family later).mp later_mem with ⟨other, -, -, rfl⟩
  have same : assist = other := same
  subst same
  rcases apart with less | ⟨-, less⟩
  · exact Nat.lt_irrefl _ less
  · exact Nat.lt_irrefl _ less

theorem size_eq : (registry.statistics family).entries.length +
    (registry.statistics family).notShown = family.members.length := by
  have notShown : (registry.statistics family).notShown =
      (registry.classStatistics family).countP fun statistic => statistic.calls == 0 := rfl
  have members : (registry.classStatistics family).length = family.members.length :=
    List.length_map _
  rw [(registry.entries_perm family).length_eq, notShown, ← members,
    ← List.countP_eq_length_filter,
    List.length_eq_countP_add_countP fun statistic => statistic.calls != 0]
  refine congrArg _ (List.countP_congr fun statistic _ => ?_)
  simp

/-- An assist that is not listed adds nothing to a counter that keeps below its calls. -/
theorem total_entries {counter : AssistStatistic → Nat}
    (bounded : ∀ assist, counter (registry.statistic assist) ≤ (registry.statistic assist).calls) :
    AssistStatistic.total counter (registry.statistics family).entries =
      AssistStatistic.total counter (registry.classStatistics family) := by
  rw [AssistStatistic.total_perm (registry.entries_perm family)]
  apply AssistStatistic.total_filter
  intro statistic statistic_mem uncalled
  rcases List.mem_map.mp statistic_mem with ⟨assist, -, rfl⟩
  have below := bounded assist
  have zero : (registry.statistic assist).calls = 0 := by simpa using uncalled
  exact Nat.le_zero.mp (zero ▸ below)

theorem unsupportedCalls_eq : (registry.statistics family).unsupportedCalls =
    AssistStatistic.total AssistStatistic.calls
      ((family.members.filter fun assist => !assist.isSupported).map registry.statistic) := by
  have perm := (registry.entries_perm family).filter fun statistic =>
    !statistic.assist.isSupported
  have inClass : (registry.classStatistics family).filter (fun statistic =>
      !statistic.assist.isSupported) =
        (family.members.filter fun assist => !assist.isSupported).map registry.statistic := by
    rw [classStatistics, List.filter_map]
    rfl
  rw [List.filter_filter] at perm
  simp only [Bool.and_comm] at perm
  rw [← List.filter_filter] at perm
  rw [StatisticsReport.unsupportedCalls, AssistStatistic.total_perm perm, ← inClass]
  apply AssistStatistic.total_filter
  intro statistic _ uncalled
  simpa using uncalled

end Entries

theorem Sound.reports (sound : registry.Sound) (family : AssistClass) :
    registry.Reports family (registry.statistics family) := by
  have hits_le : ∀ statistic ∈ (registry.statistics family).entries,
      statistic.hits ≤ statistic.calls := by
    intro statistic statistic_mem
    rcases (registry.mem_entries family statistic).mp statistic_mem with ⟨assist, -, -, rfl⟩
    exact sound.hits_le assist
  exact {
    family_eq := rfl
    mem_iff := registry.mem_entries family
    nodup := registry.entries_nodup family
    ordered := registry.entries_ordered family
    size := registry.size_eq family
    totalCalls := registry.total_entries family fun _ => Nat.le_refl _
    totalHits := registry.total_entries family sound.hits_le
    unsupportedCalls := registry.unsupportedCalls_eq family
    entryLine := fun statistic isListed => showsRatio (hits_le statistic isListed)
    totalLine := showsRatio (sound.totalHits_le family) }

theorem sound_of_ofConfig {config : Config} {start : Registry} {events : List Event}
    (built : ofConfig config = .ok (start, events)) : start.Sound := by
  have zero := counters_of_ofConfig built
  refine ⟨fun assist => ?_, fun assist _ => (zero assist).2⟩
  exact Nat.le_of_eq ((zero assist).2.trans (zero assist).1.symm)

/-- After any run a report tells all of its class: it lists what has been called, and its totals
leave nothing out. -/
theorem statistics_complete {Machine Refusal : Type} {config : Config} {start : Registry}
    {events : List Event} (built : ofConfig config = .ok (start, events))
    (turns : List (Turn Machine Refusal)) (family : AssistClass) :
    (start.runAll turns).Reports family ((start.runAll turns).statistics family) :=
  ((sound_of_ofConfig built).runAll turns).reports family

/-- In the run in which STEVL is performed and LCSPG left to software, both are listed, and one of
the two calls has been of an assist that is not supported. -/
theorem countedTurns_statistics :
    let final := (initial true false).runAll countedTurns
    let report := final.statistics .cp
    (report.totalCalls = 2 ∧ report.totalHits = 1 ∧ report.unsupportedCalls = 1) ∧
      report.entries.length + report.notShown = 23 ∧
      final.statistic .lcspg ∈ report.entries ∧
      ratio report.totalCalls report.totalHits = 50 := by
  intro final report
  have built : ofConfig { available := true } = .ok (initial true false, []) := rfl
  have reports : final.Reports .cp report := statistics_complete built countedTurns .cp
  have totalCalls : report.totalCalls = 2 := by
    rw [reports.totalCalls]
    decide +kernel
  have totalHits : report.totalHits = 1 := by
    rw [reports.totalHits]
    decide +kernel
  have unsupportedCalls : report.unsupportedCalls = 1 := by
    rw [reports.unsupportedCalls]
    decide +kernel
  have called : (final.entry .lcspg).calls ≠ 0 := by decide +kernel
  refine ⟨⟨totalCalls, totalHits, unsupportedCalls⟩, reports.size,
    (reports.mem_iff _).mpr ⟨.lcspg, rfl, called, rfl⟩, ?_⟩
  have floor := reports.totalLine.floor
  rw [totalCalls, totalHits] at floor ⊢
  have bounds := floor (by decide)
  omega

end Registry

end Assist370
