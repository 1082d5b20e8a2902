/-
Grouping reports into transfers. No report is lost and none is made up; within
a transfer every report is of the same transfer as the first one, and the
reports stand by their banks, each bank once and none without a report.
-/

import Passbook.Proofs.Entry
import Passbook.Reconcile.Deduplication

namespace Passbook

/-! ## Transfers -/

namespace Report

theorem sameTransfer_iff {a b : Report} :
    a.sameTransfer b = true ↔
      a.origin.sameValue b.origin = true ∧ a.destination.sameValue b.destination = true ∧
        a.date.sameValue b.date = true ∧ a.amount.sameValue b.amount = true := by
  simp only [sameTransfer, Bool.and_eq_true, and_assoc]

theorem sameTransfer_refl (a : Report) : a.sameTransfer a = true :=
  sameTransfer_iff.mpr ⟨Entry.sameValue_refl _, Entry.sameValue_refl _, Entry.sameValue_refl _,
    Entry.sameValue_refl _⟩

theorem sameTransfer_symm {a b : Report} (same : a.sameTransfer b = true) :
    b.sameTransfer a = true := by
  obtain ⟨origin, destination, date, amount⟩ := sameTransfer_iff.mp same
  exact sameTransfer_iff.mpr ⟨Entry.sameValue_symm origin, Entry.sameValue_symm destination,
    Entry.sameValue_symm date, Entry.sameValue_symm amount⟩

theorem sameTransfer_trans {a b c : Report} (first : a.sameTransfer b = true)
    (second : b.sameTransfer c = true) : a.sameTransfer c = true := by
  obtain ⟨origin, destination, date, amount⟩ := sameTransfer_iff.mp first
  obtain ⟨origin', destination', date', amount'⟩ := sameTransfer_iff.mp second
  exact sameTransfer_iff.mpr ⟨Entry.sameValue_trans origin origin',
    Entry.sameValue_trans destination destination', Entry.sameValue_trans date date',
    Entry.sameValue_trans amount amount'⟩

end Report

namespace Deduplication

def Transfer.reports (transfer : Transfer) : List Report :=
  transfer.byBank.flatMap Prod.snd

def Transfer.banks (transfer : Transfer) : List String :=
  transfer.byBank.map Prod.fst

/-- What grouping makes of reports: one transfer, each bank once, and for each
bank some reports, all of them its own. -/
structure Transfer.Coherent (transfer : Transfer) : Prop where
  same : ∀ report ∈ transfer.reports, transfer.first.sameTransfer report = true
  banksNodup : transfer.banks.Nodup
  bankNameEq : ∀ entry ∈ transfer.byBank, ∀ report ∈ entry.2, report.bankName = entry.1
  reported : ∀ entry ∈ transfer.byBank, entry.2 ≠ []

theorem perm_addToBank (report : Report) (byBank : List (String × List Report)) :
    ((addToBank report byBank).flatMap Prod.snd).Perm (report :: byBank.flatMap Prod.snd) := by
  induction byBank with
  | nil => exact List.Perm.refl _
  | cons entry rest ih =>
      obtain ⟨bank, reports⟩ := entry
      unfold addToBank
      split
      · rw [List.flatMap_cons, List.flatMap_cons, List.append_assoc]
        exact List.perm_middle
      · rw [List.flatMap_cons, List.flatMap_cons]
        exact (List.Perm.append_left reports ih).trans List.perm_middle

theorem banks_addToBank (report : Report) (byBank : List (String × List Report)) :
    (addToBank report byBank).map Prod.fst =
      if report.bankName ∈ byBank.map Prod.fst then byBank.map Prod.fst
      else byBank.map Prod.fst ++ [report.bankName] := by
  induction byBank with
  | nil => rfl
  | cons entry rest ih =>
      obtain ⟨bank, reports⟩ := entry
      unfold addToBank
      by_cases same : bank = report.bankName
      · simp [same]
      · have other : report.bankName ≠ bank := Ne.symm same
        rw [if_neg same, List.map_cons, ih]
        simp only [List.map_cons, List.mem_cons, other, false_or]
        split <;> rfl

/-- An entry after a report is added is an entry from before, with the report
at its end when it is the reporting bank's, or that bank's first report. -/
theorem mem_addToBank {report : Report} {byBank : List (String × List Report)}
    {entry : String × List Report} (member : entry ∈ addToBank report byBank) :
    entry ∈ byBank ∨ (entry.1 = report.bankName ∧
      (entry.2 = [report] ∨ ∃ earlier, (entry.1, earlier) ∈ byBank ∧ entry.2 = earlier ++ [report])) := by
  induction byBank with
  | nil =>
      rw [addToBank, List.mem_singleton] at member
      subst member
      exact Or.inr ⟨rfl, Or.inl rfl⟩
  | cons head rest ih =>
      obtain ⟨bank, reports⟩ := head
      unfold addToBank at member
      split at member
      · rename_i same
        rcases List.mem_cons.mp member with here | there
        · subst here
          exact Or.inr ⟨same, Or.inr ⟨reports, List.mem_cons_self, rfl⟩⟩
        · exact Or.inl (List.mem_cons_of_mem _ there)
      · rcases List.mem_cons.mp member with here | there
        · subst here
          exact Or.inl List.mem_cons_self
        · rcases ih there with kept | ⟨own, alone | ⟨earlier, before, after⟩⟩
          · exact Or.inl (List.mem_cons_of_mem _ kept)
          · exact Or.inr ⟨own, Or.inl alone⟩
          · exact Or.inr ⟨own, Or.inr ⟨earlier, List.mem_cons_of_mem _ before, after⟩⟩

theorem Transfer.coherent_singleton (report : Report) :
    Transfer.Coherent ⟨report, [(report.bankName, [report])]⟩ where
  same := by
    intro other member
    rw [Transfer.reports, List.flatMap_singleton, List.mem_singleton] at member
    rw [member]
    exact report.sameTransfer_refl
  banksNodup := List.pairwise_singleton _ _
  bankNameEq := by
    intro entry member other present
    rw [List.mem_singleton] at member
    subst member
    rw [List.mem_singleton] at present
    rw [present]
  reported := by
    intro entry member
    rw [List.mem_singleton] at member
    subst member
    exact List.cons_ne_nil _ _

theorem Transfer.Coherent.addToBank {transfer : Transfer} (coherent : transfer.Coherent)
    {report : Report} (same : transfer.first.sameTransfer report = true) :
    Transfer.Coherent { transfer with byBank := Deduplication.addToBank report transfer.byBank } where
  same := by
    intro other member
    have present := (perm_addToBank report transfer.byBank).mem_iff.mp member
    rcases List.mem_cons.mp present with here | there
    · rw [here]
      exact same
    · exact coherent.same other there
  banksNodup := by
    have banks := banks_addToBank report transfer.byBank
    unfold Transfer.banks
    rw [banks]
    split
    · exact coherent.banksNodup
    · rename_i absent
      refine List.nodup_append.mpr ⟨coherent.banksNodup, List.pairwise_singleton _ _, ?_⟩
      intro bank present other last equal
      rw [List.mem_singleton] at last
      rw [equal, last] at present
      exact absent present
  bankNameEq := by
    intro entry member other present
    rcases mem_addToBank member with kept | ⟨own, alone | ⟨earlier, before, after⟩⟩
    · exact coherent.bankNameEq entry kept other present
    · rw [alone, List.mem_singleton] at present
      rw [present, own]
    · rw [after, List.mem_append, List.mem_singleton] at present
      rcases present with there | last
      · exact coherent.bankNameEq _ before other there
      · rw [last, own]
  reported := by
    intro entry member
    rcases mem_addToBank member with kept | ⟨_, alone | ⟨earlier, _, after⟩⟩
    · exact coherent.reported entry kept
    · rw [alone]
      exact List.cons_ne_nil _ _
    · rw [after]
      exact List.append_ne_nil_of_right_ne_nil _ (List.cons_ne_nil _ _)

theorem perm_addReport (transfers : List Transfer) (report : Report) :
    ((addReport transfers report).flatMap Transfer.reports).Perm
      (report :: transfers.flatMap Transfer.reports) := by
  induction transfers with
  | nil => exact List.Perm.refl _
  | cons transfer rest ih =>
      unfold addReport
      split
      · rw [List.flatMap_cons, List.flatMap_cons, ← List.cons_append]
        exact List.Perm.append_right _ (perm_addToBank report transfer.byBank)
      · rw [List.flatMap_cons, List.flatMap_cons]
        exact (List.Perm.append_left _ ih).trans List.perm_middle

theorem coherent_addReport {transfers : List Transfer}
    (coherent : ∀ transfer ∈ transfers, transfer.Coherent) (report : Report) :
    ∀ transfer ∈ addReport transfers report, transfer.Coherent := by
  induction transfers with
  | nil =>
      intro transfer member
      rw [addReport, List.mem_singleton] at member
      rw [member]
      exact Transfer.coherent_singleton report
  | cons head rest ih =>
      have tail := ih fun transfer member => coherent transfer (List.mem_cons_of_mem _ member)
      intro transfer member
      unfold addReport at member
      split at member
      · rename_i same
        rcases List.mem_cons.mp member with here | there
        · rw [here]
          exact (coherent head List.mem_cons_self).addToBank same
        · exact coherent transfer (List.mem_cons_of_mem _ there)
      · rcases List.mem_cons.mp member with here | there
        · rw [here]
          exact coherent head List.mem_cons_self
        · exact tail transfer there

private theorem foldl_addReport (reports : List Report) (transfers : List Transfer)
    (coherent : ∀ transfer ∈ transfers, transfer.Coherent) :
    ((reports.foldl addReport transfers).flatMap Transfer.reports).Perm
        (transfers.flatMap Transfer.reports ++ reports) ∧
      ∀ transfer ∈ reports.foldl addReport transfers, transfer.Coherent := by
  induction reports generalizing transfers with
  | nil => exact ⟨by rw [List.append_nil]; exact List.Perm.refl _, coherent⟩
  | cons report reports ih =>
      obtain ⟨kept, grouped⟩ := ih _ (coherent_addReport coherent report)
      refine ⟨kept.trans ?_, grouped⟩
      exact ((perm_addReport transfers report).append_right reports).trans List.perm_middle.symm

/-- The transfers hold the reports that they are made of, and no others. -/
theorem perm_transfers (reports : List Report) :
    ((transfers reports).flatMap Transfer.reports).Perm reports :=
  (foldl_addReport reports [] fun _ member => absurd member List.not_mem_nil).1

theorem coherent_transfers {reports : List Report} {transfer : Transfer}
    (member : transfer ∈ transfers reports) : transfer.Coherent :=
  (foldl_addReport reports [] fun _ absent => absurd absent List.not_mem_nil).2 transfer member

theorem mem_of_mem_transfers {reports : List Report} {transfer : Transfer}
    (member : transfer ∈ transfers reports) {report : Report}
    (present : report ∈ transfer.reports) : report ∈ reports :=
  (perm_transfers reports).mem_iff.mp (List.mem_flatMap.mpr ⟨transfer, member, present⟩)

end Deduplication

/-! ## Classes of reports

Transfers as classes of reports. Grouping reports takes the first one, gathers
with it all later reports of the same transfer in their order, and goes on with
those that are left. So a transfer is made of the reports of its class alone,
whatever stands between them. -/

namespace Deduplication

/-- The transfer that some reports of it make, one of them in front. -/
def Transfer.collect (first : Report) (others : List Report) : Transfer :=
  ⟨first, others.foldl (fun byBank report => addToBank report byBank) [(first.bankName, [first])]⟩

private theorem foldl_addReport_cons (reports : List Report) (transfer : Transfer)
    (transfers : List Transfer) :
    reports.foldl addReport (transfer :: transfers) =
      { transfer with
        byBank := (reports.filter transfer.first.sameTransfer).foldl
          (fun byBank report => addToBank report byBank) transfer.byBank } ::
        (reports.filter fun report => !transfer.first.sameTransfer report).foldl addReport
          transfers := by
  induction reports generalizing transfer transfers with
  | nil => rfl
  | cons report reports ih =>
      rw [List.foldl_cons, addReport]
      cases same : transfer.first.sameTransfer report with
      | true =>
          rw [if_pos rfl, ih, List.filter_cons_of_pos same,
            List.filter_cons_of_neg (by rw [same]; decide)]
          rfl
      | false =>
          rw [if_neg (by decide), ih, List.filter_cons_of_neg (by rw [same]; decide),
            List.filter_cons_of_pos (by rw [same]; rfl)]
          rfl

/-- The first report opens a transfer, which takes all reports of its class. -/
theorem transfers_cons (report : Report) (reports : List Report) :
    transfers (report :: reports) =
      Transfer.collect report (reports.filter report.sameTransfer) ::
        transfers (reports.filter fun other => !report.sameTransfer other) := by
  unfold transfers
  rw [List.foldl_cons, addReport, foldl_addReport_cons]
  rfl

/-- Taking one class out leaves the others as they were. -/
private theorem filter_sameTransfer_rest {report first : Report}
    (apart : report.sameTransfer first = false) (reports : List Report) :
    (reports.filter fun other => !report.sameTransfer other).filter first.sameTransfer =
      reports.filter first.sameTransfer := by
  rw [List.filter_filter]
  apply List.filter_congr
  intro other _
  cases same : first.sameTransfer other with
  | false => rfl
  | true =>
      cases taken : report.sameTransfer other with
      | false => rfl
      | true =>
          rw [Report.sameTransfer_trans taken (Report.sameTransfer_symm same)] at apart
          cases apart

/-- What holds of no items, and of some when it holds of those that stay behind
the first, holds of all. -/
theorem induct_filter {α : Type} (stays : α → α → Bool) {holds : List α → Prop} (none : holds [])
    (next : ∀ first rest, holds (rest.filter (stays first)) → holds (first :: rest))
    (items : List α) : holds items := by
  -- By the number of items, for those that stay are no tail of the list.
  induction size : items.length using Nat.strongRecOn generalizing items with
  | ind count ih =>
      cases items with
      | nil => exact none
      | cons first rest =>
          apply next
          refine ih _ ?_ _ rfl
          have atMost := List.length_filter_le (stays first) rest
          rw [List.length_cons] at size
          omega

/-- What holds of no reports, and of some when it holds of them without the
class of the first, holds of all. -/
theorem induct_classes {holds : List Report → Prop} (none : holds [])
    (next : ∀ report reports,
      holds (reports.filter fun other => !report.sameTransfer other) → holds (report :: reports))
    (reports : List Report) : holds reports :=
  induct_filter (fun report other => !report.sameTransfer other) none next reports

/-- The transfers are the classes, each opened by its first report. -/
theorem mem_transfers_iff {reports : List Report} {transfer : Transfer} :
    transfer ∈ transfers reports ↔ ∃ first others,
      reports.filter first.sameTransfer = first :: others ∧
        transfer = Transfer.collect first others := by
  induction reports using induct_classes with
  | none => simp [transfers]
  | next report reports left =>
      have own : (report :: reports).filter report.sameTransfer =
          report :: reports.filter report.sameTransfer :=
        List.filter_cons_of_pos (Report.sameTransfer_refl report)
      rw [transfers_cons, List.mem_cons, left]
      constructor
      · rintro (rfl | ⟨first, others, gathered, rfl⟩)
        · exact ⟨report, _, own, rfl⟩
        · have remains : first ∈ reports.filter fun other => !report.sameTransfer other :=
            (List.mem_filter.mp (gathered ▸ List.mem_cons_self)).1
          have apart : report.sameTransfer first = false :=
            (Bool.not_eq_true' _).mp (List.mem_filter.mp remains).2
          refine ⟨first, others, ?_, rfl⟩
          rw [filter_sameTransfer_rest apart] at gathered
          rw [List.filter_cons_of_neg, gathered]
          intro same
          rw [Report.sameTransfer_symm same] at apart
          cases apart
      · rintro ⟨first, others, gathered, rfl⟩
        by_cases same : first.sameTransfer report = true
        · rw [List.filter_cons_of_pos same, List.cons.injEq] at gathered
          obtain ⟨rfl, rfl⟩ := gathered
          exact Or.inl rfl
        · have apart : report.sameTransfer first = false :=
            eq_false_of_ne_true fun there => same (Report.sameTransfer_symm there)
          refine Or.inr ⟨first, others, ?_, rfl⟩
          rw [filter_sameTransfer_rest apart, ← gathered, List.filter_cons_of_neg same]

theorem first_mem_of_mem_transfers {reports : List Report} {transfer : Transfer}
    (member : transfer ∈ transfers reports) : transfer.first ∈ reports := by
  obtain ⟨first, others, gathered, rfl⟩ := mem_transfers_iff.mp member
  exact (List.mem_filter.mp (gathered ▸ List.mem_cons_self)).1

/-- No two of the transfers are of one class. -/
theorem pairwise_transfers (reports : List Report) :
    (transfers reports).Pairwise fun earlier later =>
      earlier.first.sameTransfer later.first = false := by
  induction reports using induct_classes with
  | none => exact List.Pairwise.nil
  | next report reports apart =>
      rw [transfers_cons]
      refine List.pairwise_cons.mpr ⟨?_, apart⟩
      intro later member
      have remains := List.mem_filter.mp (first_mem_of_mem_transfers member)
      exact (Bool.not_eq_true' _).mp remains.2

/-- A class has one transfer. -/
theorem eq_of_sameTransfer {reports : List Report} {transfer other : Transfer}
    (member : transfer ∈ transfers reports) (present : other ∈ transfers reports)
    (same : transfer.first.sameTransfer other.first = true) : transfer = other := by
  obtain ⟨first, others, gathered, rfl⟩ := mem_transfers_iff.mp member
  obtain ⟨second, more, alsoGathered, rfl⟩ := mem_transfers_iff.mp present
  have oneClass : reports.filter first.sameTransfer = reports.filter second.sameTransfer := by
    refine List.filter_congr fun report _ => Bool.eq_iff_iff.mpr ⟨?_, ?_⟩
    · exact Report.sameTransfer_trans (Report.sameTransfer_symm same)
    · exact Report.sameTransfer_trans same
  rw [gathered, alsoGathered] at oneClass
  cases oneClass
  rfl

theorem nodup_transfers (reports : List Report) : (transfers reports).Nodup := by
  refine (pairwise_transfers reports).imp ?_
  intro earlier later apart same
  rw [same, Report.sameTransfer_refl] at apart
  cases apart

/-- Reports that have the same classes make the same transfers, in some order. -/
theorem perm_transfers_of_classes {first second : List Report}
    (classes : ∀ report : Report,
      first.filter report.sameTransfer = second.filter report.sameTransfer) :
    (transfers first).Perm (transfers second) := by
  rw [List.perm_ext_iff_of_nodup (nodup_transfers first) (nodup_transfers second)]
  intro transfer
  simp only [mem_transfers_iff, classes]

/-! ### The banks of a transfer -/

def isBy (bank : String) (report : Report) : Bool :=
  bank == report.bankName

def groupByBank (reports : List Report) : List (String × List Report) :=
  reports.foldl (fun byBank report => addToBank report byBank) []

private theorem foldl_addToBank_cons (reports : List Report) (bank : String) (own : List Report)
    (byBank : List (String × List Report)) :
    reports.foldl (fun byBank report => addToBank report byBank) ((bank, own) :: byBank) =
      (bank, own ++ reports.filter (isBy bank)) ::
        (reports.filter fun report => !isBy bank report).foldl
          (fun byBank report => addToBank report byBank) byBank := by
  induction reports generalizing own byBank with
  | nil => rw [List.filter_nil, List.append_nil, List.filter_nil, List.foldl_nil, List.foldl_nil]
  | cons report reports ih =>
      rw [List.foldl_cons, addToBank]
      by_cases same : bank = report.bankName
      · have by_bank : isBy bank report = true := beq_iff_eq.mpr same
        rw [if_pos same, ih, List.filter_cons_of_pos by_bank,
          List.filter_cons_of_neg (by rw [by_bank]; decide), List.append_assoc]
        rfl
      · have by_other : isBy bank report = false := beq_false_of_ne same
        rw [if_neg same, ih, List.filter_cons_of_neg (by rw [by_other]; decide),
          List.filter_cons_of_pos (by rw [by_other]; rfl)]
        rfl

/-- The bank of the first report takes all its reports in their order. -/
theorem groupByBank_cons (report : Report) (reports : List Report) :
    groupByBank (report :: reports) =
      (report.bankName, report :: reports.filter (isBy report.bankName)) ::
        groupByBank (reports.filter fun other => !isBy report.bankName other) :=
  foldl_addToBank_cons reports report.bankName [report] []

theorem groupByBank_eq_nil_iff {reports : List Report} : groupByBank reports = [] ↔ reports = [] := by
  cases reports with
  | nil => exact iff_of_true rfl rfl
  | cons report reports =>
      rw [groupByBank_cons]
      exact iff_of_false (List.cons_ne_nil _ _) (List.cons_ne_nil _ _)

theorem byBank_collect (first : Report) (others : List Report) :
    (Transfer.collect first others).byBank = groupByBank (first :: others) :=
  rfl

theorem map_fst_groupByBank (reports : List Report) :
    (groupByBank reports).map Prod.fst = (reports.map Report.bankName).eraseDups := by
  induction reports using induct_filter fun report other => !isBy report.bankName other with
  | none => rfl
  | next report reports others =>
      rw [groupByBank_cons, List.map_cons, List.map_cons, List.eraseDups_cons, others,
        List.filter_map]
      have stays : (fun other => !isBy report.bankName other) =
          (fun bank => !bank == report.bankName) ∘ Report.bankName := by
        funext other
        rw [Function.comp_apply, isBy, Bool.beq_comm]
      rw [stays]

theorem Transfer.banks_collect_eq (first : Report) (others : List Report) :
    (Transfer.collect first others).banks =
      ((first :: others).map Report.bankName).eraseDups :=
  map_fst_groupByBank (first :: others)

/-- A transfer that two banks report, at most, has the reports of its first bank,
and all others are another bank's. -/
theorem Transfer.byBank_collect_of_few {first : Report} {others : List Report}
    (few : (Transfer.collect first others).byBank.length ≤ 2) :
    ∃ other, (∀ report ∈ others.filter fun report => !isBy first.bankName report,
        report.bankName = other) ∧
      (others.filter (fun report => !isBy first.bankName report) = [] ∧
          (Transfer.collect first others).byBank =
            [(first.bankName, first :: others.filter (isBy first.bankName))] ∨
        (Transfer.collect first others).byBank =
          [(first.bankName, first :: others.filter (isBy first.bankName)),
            (other, others.filter fun report => !isBy first.bankName report)]) := by
  have byBank := byBank_collect first others
  rw [groupByBank_cons] at byBank
  generalize (others.filter fun report => !isBy first.bankName report) = rest at byBank ⊢
  cases rest with
  | nil => exact ⟨first.bankName, (fun _ absent => nomatch absent), Or.inl ⟨rfl, byBank⟩⟩
  | cons second more =>
      rw [groupByBank_cons] at byBank
      rw [byBank] at few
      have noThird : more.filter (fun report => !isBy second.bankName report) = [] := by
        rw [← groupByBank_eq_nil_iff, ← List.length_eq_zero_iff]
        simp only [List.length_cons] at few
        omega
      have bySecond : ∀ report ∈ more, isBy second.bankName report = true := by
        intro report member
        have own := List.filter_eq_nil_iff.mp noThird report member
        rw [Bool.not_eq_true, Bool.not_eq_false'] at own
        exact own
      rw [noThird, List.filter_eq_self.mpr bySecond] at byBank
      refine ⟨second.bankName, List.forall_mem_cons.mpr ⟨rfl, ?_⟩, Or.inr byBank⟩
      exact fun report member => (eq_of_beq (bySecond report member)).symm

theorem Transfer.banks_collect {first : Report} {others : List Report}
    (few : (Transfer.collect first others).byBank.length ≤ 2) :
    ∃ other, ∀ report ∈ first :: others, report.bankName ∈ [first.bankName, other] := by
  obtain ⟨other, named, _⟩ := Transfer.byBank_collect_of_few few
  refine ⟨other, List.forall_mem_cons.mpr ⟨List.mem_cons_self, ?_⟩⟩
  intro report member
  cases own : isBy first.bankName report with
  | true => exact List.mem_cons.mpr (Or.inl (eq_of_beq own).symm)
  | false =>
      have remains : report ∈ others.filter fun report => !isBy first.bankName report :=
        List.mem_filter.mpr ⟨member, (Bool.not_eq_true' _).mpr own⟩
      exact List.mem_cons_of_mem _ (List.mem_singleton.mpr (named report remains))

end Deduplication

end Passbook
