import NarseseDialects.CommandLine.Drawing
import NarseseDialects.CommandLine.Run
import NarseseDialects.Proofs.Outcome

namespace NarseseDialects.CommandLine

variable {convert : BatchItem → Except Mishap Text} {i : BatchItem} {is js : List BatchItem} {g : Log}

def result? (convert : BatchItem → Except Mishap Text) (i : BatchItem) : Option Text := (convert i).toOption

def issue? (convert : BatchItem → Except Mishap Text) (i : BatchItem) : Option Issue :=
  match convert i with
  | .error (.issue x) => some x
  | _ => none

/-- An item that is converted or comes to an issue, and so does not cut the batch off. -/
def Settled (convert : BatchItem → Except Mishap Text) (i : BatchItem) : Prop :=
  (result? convert i).isSome ∨ (issue? convert i).isSome

instance : Decidable (Settled convert i) := inferInstanceAs (Decidable (_ ∨ _))

def Log.after (convert : BatchItem → Except Mishap Text) (g : Log) (is : List BatchItem) : Log where
  results := g.results ++ is.filterMap (result? convert)
  remarks := g.remarks ++ is.map fun i => g.report.remark ["Translating", i.label]
  report := { g.report with issues := g.report.issues ++ is.filterMap (issue? convert) }

lemma Log.after_nil : g.after convert [] = g := by simp [Log.after]

lemma Log.after_append : g.after convert (is ++ js) = (g.after convert is).after convert js := by
  simp only [Log.after, List.filterMap_append, List.map_append, ← List.append_assoc]
  rfl

lemma Log.after_of_result {t : Text} (h : convert i = .ok t) :
    g.after convert [i] = (g.mention i.label).add t := by
  simp [Log.after, Log.mention, Log.add, result?, issue?, h, Except.toOption]

lemma Log.after_of_issue {x : Issue} (h : convert i = .error (.issue x)) :
    g.after convert [i] = (g.mention i.label).file x := by
  simp [Log.after, Log.mention, Log.file, Report.file, result?, issue?, h, Except.toOption]

lemma settled_cases (h : Settled convert i) :
    (∃ t, convert i = .ok t ∧ issue? convert i = none) ∨
      ∃ x, convert i = .error (.issue x) ∧ issue? convert i = some x := by
  cases hi : convert i with
  | ok t => exact .inl ⟨t, rfl, by simp [issue?, hi]⟩
  | error e =>
    cases e with
    | issue x => exact .inr ⟨x, rfl, by simp [issue?, hi]⟩
    | halt => simp [Settled, result?, issue?, hi, Except.toOption] at h

lemma runItems_cons (h : Settled convert i) :
    runItems convert (i :: is) g =
      if (issue? convert i).isSome ∧ (g.after convert [i]).report.isFull then (g.after convert [i], .full)
      else runItems convert is (g.after convert [i]) := by
  rcases settled_cases h with ⟨t, ht, hnone⟩ | ⟨x, hx, hsome⟩
  · simp [runItems, ht, hnone, Log.after_of_result ht]
  · simp [runItems, hx, hsome, Log.after_of_issue hx]

lemma length_issues_after :
    (g.after convert is).report.issues.length = g.report.issues.length + (is.filterMap (issue? convert)).length := by
  simp [Log.after]

lemma runItems_append_of_room (js : List BatchItem) (h : ∀ i ∈ is, Settled convert i)
    (hroom : g.report.issues.length + (is.filterMap (issue? convert)).length < g.report.limit) :
    runItems convert (is ++ js) g = runItems convert js (g.after convert is) := by
  induction is generalizing g with
  | nil => rw [Log.after_nil, List.nil_append]
  | cons i is ih =>
    have hcons : (List.filterMap (issue? convert) (i :: is)).length =
        ([i].filterMap (issue? convert)).length + (is.filterMap (issue? convert)).length := by
      rw [← List.length_append, ← List.filterMap_append, List.singleton_append]
    have hnext : (g.after convert [i]).report.issues.length + (is.filterMap (issue? convert)).length <
        g.report.limit := by
      rw [length_issues_after]
      omega
    have hopen : (g.after convert [i]).report.isFull = false := by
      rw [Report.isFull, beq_eq_false_iff_ne]
      exact Nat.ne_of_lt (Nat.lt_of_le_of_lt (Nat.le_add_right ..) hnext)
    rw [List.cons_append, runItems_cons (h i List.mem_cons_self), hopen, if_neg (by simp),
      ih (fun j hj => h j (List.mem_cons_of_mem i hj)) hnext, ← Log.after_append, List.singleton_append]

lemma runItems_of_last (h : ∀ j ∈ is, Settled convert j) (hi : (issue? convert i).isSome)
    (hlast : g.report.issues.length + (is.filterMap (issue? convert)).length + 1 = g.report.limit) :
    runItems convert (is ++ i :: js) g = (g.after convert (is ++ [i]), .full) := by
  have hfull : ((g.after convert is).after convert [i]).report.isFull = true := by
    obtain ⟨x, hx⟩ := Option.isSome_iff_exists.1 hi
    rw [← Log.after_append, Report.isFull, beq_iff_eq, length_issues_after, List.filterMap_append,
      List.length_append]
    simpa [hx, Log.after, Nat.add_assoc] using hlast
  rw [runItems_append_of_room _ h (by omega), runItems_cons (.inr hi), if_pos ⟨hi, hfull⟩, Log.after_append]

lemma exists_last_issue {n : Nat} (hn : 0 < n) (h : n ≤ (is.filterMap (issue? convert)).length) :
    ∃ before i behind, is = before ++ i :: behind ∧ (before.filterMap (issue? convert)).length + 1 = n ∧
      (issue? convert i).isSome := by
  induction is generalizing n with
  | nil => exact absurd (Nat.lt_of_lt_of_le hn h) (Nat.lt_irrefl 0)
  | cons i is ih =>
    cases hi : issue? convert i with
    | none =>
      rw [List.filterMap_cons_none hi] at h
      obtain ⟨before, j, behind, rfl, hlen, hj⟩ := ih hn h
      exact ⟨i :: before, j, behind, rfl, by rwa [List.filterMap_cons_none hi], hj⟩
    | some x =>
      rw [List.filterMap_cons_some hi, List.length_cons] at h
      by_cases hone : n = 1
      · exact ⟨[], i, is, rfl, by simp [hone], by simp [hi]⟩
      · obtain ⟨before, j, behind, rfl, hlen, hj⟩ := ih (n := n - 1) (by omega) (by omega)
        refine ⟨i :: before, j, behind, rfl, ?_, hj⟩
        rw [List.filterMap_cons_some hi, List.length_cons]
        omega

lemma length_argumentItems (texts : List Text) : (argumentItems texts).length = texts.length := by
  rw [argumentItems, List.length_map, List.length_zipIdx]

lemma exists_argumentItems_append (texts others : List Text) :
    ∃ ks, argumentItems (texts ++ others) = argumentItems texts ++ ks := by
  rw [argumentItems, List.zipIdx_append, List.map_append]
  exact ⟨_, rfl⟩

lemma argumentItems_take {texts : List Text} (h : argumentItems texts = is ++ js) :
    argumentItems (texts.take is.length) = is := by
  obtain ⟨ks, hks⟩ := exists_argumentItems_append (texts.take is.length) (texts.drop is.length)
  rw [List.take_append_drop, h] at hks
  have hlength : is.length ≤ texts.length := by
    rw [← length_argumentItems, h, List.length_append]
    exact Nat.le_add_right ..
  refine (List.append_inj hks ?_).1.symm
  rw [length_argumentItems, List.length_take_of_le hlength]

lemma runBatch_eq (p : Illustrator) (l : Lament) {o : Options} {c : Conversion} (hc : o.conversion? = some c)
    (hitems : o.items ≠ []) (hpath : o.path? = none) (content : Except FileFault ByteArray) :
    runBatch p l o content =
      conclude p l (runItems c.convert (argumentItems o.items) (.start (.start o.verbose issueLimit))) := by
  rw [runBatch, if_neg (by simp [hitems])]
  simp only [hpath, hc]
  split
  · contradiction
  · rfl

def attempted (c : Conversion) (verbose : Bool) (is : List BatchItem) : Log :=
  (Log.start (.start verbose issueLimit)).after c.convert is

lemma runItems_eq_attempted (c : Conversion) (verbose : Bool) (h : ∀ i ∈ is, Settled c.convert i)
    (hroom : (is.filterMap (issue? c.convert)).length < issueLimit) :
    runItems c.convert is (.start (.start verbose issueLimit)) = (attempted c verbose is, .finished) := by
  have hrun := runItems_append_of_room (g := .start (.start verbose issueLimit)) [] h
    (Nat.lt_of_le_of_lt (Nat.le_of_eq (Nat.zero_add _)) hroom)
  rwa [List.append_nil] at hrun

lemma runItems_eq_attempted_of_last (c : Conversion) (verbose : Bool) (js : List BatchItem)
    (h : ∀ j ∈ is, Settled c.convert j) (hi : (issue? c.convert i).isSome)
    (hlast : (is.filterMap (issue? c.convert)).length + 1 = issueLimit) :
    runItems c.convert (is ++ i :: js) (.start (.start verbose issueLimit)) =
      (attempted c verbose (is ++ [i]), .full) :=
  runItems_of_last h hi ((congrArg (· + 1) (Nat.zero_add _)).trans hlast)

def said (p : Illustrator) (l : Lament) (c : Conversion) (verbose : Bool) (is : List BatchItem) : Text :=
  (attempted c verbose is).commentary ++ (attempted c verbose is).complaint p l

lemma output_attempted (c : Conversion) (verbose : Bool) (is : List BatchItem) :
    (attempted c verbose is).output = (is.filterMap (result? c.convert)).flatMap (· ++ ['\n']) := rfl

lemma issues_attempted (c : Conversion) (verbose : Bool) (is : List BatchItem) :
    (attempted c verbose is).report.issues = is.filterMap (issue? c.convert) := rfl

lemma result?_of_issue? (h : (issue? convert i).isSome) : result? convert i = none := by
  obtain ⟨x, hx⟩ := Option.isSome_iff_exists.1 h
  cases hi : convert i with
  | ok t => simp [issue?, hi] at hx
  | error e => simp [result?, hi, Except.toOption]

lemma runBatch_of_room (p : Illustrator) (l : Lament) {o : Options} {c : Conversion} (hc : o.conversion? = some c)
    (hitems : o.items ≠ []) (hpath : o.path? = none) (content : Except FileFault ByteArray)
    (h : ∀ i ∈ argumentItems o.items, Settled c.convert i)
    (hroom : ((argumentItems o.items).filterMap (issue? c.convert)).length < issueLimit) :
    runBatch p l o content =
      { exit := .status (if ((argumentItems o.items).filterMap (issue? c.convert)).isEmpty then 0 else 1)
        output := ((argumentItems o.items).filterMap (result? c.convert)).flatMap (· ++ ['\n'])
        commentary := said p l c o.verbose (argumentItems o.items)
        issues := (argumentItems o.items).filterMap (issue? c.convert) } := by
  rw [runBatch_eq p l hc hitems hpath, runItems_eq_attempted c o.verbose h hroom, conclude, Report.isSick,
    issues_attempted]
  show Log.outcome _ (.status (if (!List.isEmpty _) = true then 1 else 0)) _ = _
  cases ((argumentItems o.items).filterMap (issue? c.convert)).isEmpty <;> rfl

lemma runBatch_of_last (p : Illustrator) (l : Lament) {o : Options} {c : Conversion} (hc : o.conversion? = some c)
    (hpath : o.path? = none) (content : Except FileFault ByteArray) (hitems : argumentItems o.items = is ++ i :: js)
    (h : ∀ j ∈ is, Settled c.convert j) (hi : (issue? c.convert i).isSome)
    (hlast : (is.filterMap (issue? c.convert)).length + 1 = issueLimit) :
    runBatch p l o content =
      { exit := .status 1
        output := (is.filterMap (result? c.convert)).flatMap (· ++ ['\n'])
        commentary := said p l c o.verbose (is ++ [i]) ++ stoppedEarly
        issues := (is ++ [i]).filterMap (issue? c.convert) } := by
  have hne : o.items ≠ [] := by
    intro hnil
    rw [hnil] at hitems
    exact List.append_ne_nil_of_right_ne_nil is (List.cons_ne_nil i js) hitems.symm
  have houtput : (attempted c o.verbose (is ++ [i])).output =
      (is.filterMap (result? c.convert)).flatMap (· ++ ['\n']) := by
    rw [output_attempted, List.filterMap_append, List.filterMap_cons_none (result?_of_issue? hi),
      List.filterMap_nil, List.append_nil]
  rw [runBatch_eq p l hc hne hpath, hitems, runItems_eq_attempted_of_last c o.verbose js h hi hlast, conclude,
    Log.outcome, houtput, issues_attempted, said, List.append_assoc]

/-- Each item of a batch is converted or comes to an issue. With room for all of the issues, every item is
attempted; else the batch ends with the last issue that there is room for, whatever stands behind it. The issues
that are collected are those of the items that were attempted. -/
theorem runBatch_isolates_failures {o : Options} {c : Conversion} (hc : o.conversion? = some c)
    (hitems : o.items ≠ []) (hpath : o.path? = none) (h : ∀ i ∈ argumentItems o.items, Settled c.convert i)
    (p : Illustrator) (l : Lament) (content : Except FileFault ByteArray) :
    let items := argumentItems o.items
    let issues := items.filterMap (issue? c.convert)
    (issues.length < issueLimit →
      runBatch p l o content =
        { exit := .status (if issues.isEmpty then 0 else 1)
          output := (items.filterMap (result? c.convert)).flatMap (· ++ ['\n'])
          commentary := said p l c o.verbose items
          issues }) ∧
    (issueLimit ≤ issues.length →
      ∃ before i behind, items = before ++ i :: behind ∧
        (before.filterMap (issue? c.convert)).length + 1 = issueLimit ∧ (issue? c.convert i).isSome ∧
        runBatch p l o content =
          { exit := .status 1
            output := (before.filterMap (result? c.convert)).flatMap (· ++ ['\n'])
            commentary := said p l c o.verbose (before ++ [i]) ++ stoppedEarly
            issues := (before ++ [i]).filterMap (issue? c.convert) } ∧
        ∀ others, runBatch p l { o with items := o.items.take (before.length + 1) ++ others } content =
          runBatch p l o content) := by
  intro items issues
  refine ⟨runBatch_of_room p l hc hitems hpath content h, fun hfull => ?_⟩
  obtain ⟨before, i, behind, hsplit, hlen, hi⟩ := exists_last_issue (by decide) hfull
  have hbefore : ∀ j ∈ before, Settled c.convert j := fun j hj =>
    h j (hsplit.symm ▸ List.mem_append_left _ hj : j ∈ items)
  have hrun := runBatch_of_last p l hc hpath content hsplit hbefore hi hlen
  refine ⟨before, i, behind, hsplit, hlen, hi, hrun, fun others => ?_⟩
  -- The items up to the last issue are numbered alike, whatever stands behind them.
  have htaken : argumentItems (o.items.take (before ++ [i]).length) = before ++ [i] :=
    argumentItems_take (hsplit.trans (List.append_cons before i behind))
  rw [List.length_append, List.length_singleton] at htaken
  obtain ⟨ks, hks⟩ := exists_argumentItems_append (o.items.take (before.length + 1)) others
  rw [htaken, List.append_assoc, List.singleton_append] at hks
  have hothers := runBatch_of_last p l (o := { o with items := o.items.take (before.length + 1) ++ others })
    hc hpath content hks hbefore hi hlen
  exact hothers.trans hrun.symm

def wordsAround (count : Nat) : Options :=
  { Options.default with items := ["a".toList] ++ List.replicate count "(".toList ++ ["b".toList] }

theorem wordsAround_runBatch_isolates_failures :
    (runBatch marker ⟨0, 0⟩ (wordsAround 2) (.error .malformedPath)).exit = .status 1 ∧
      (runBatch marker ⟨0, 0⟩ (wordsAround 2) (.error .malformedPath)).output = "a\nb\n" ∧
      (runBatch marker ⟨0, 0⟩ (wordsAround 2) (.error .malformedPath)).issues.length = 2 ∧
      ∃ n, ∀ others,
        (runBatch marker ⟨0, 0⟩ { wordsAround 11 with items := (wordsAround 11).items.take n ++ others }
          (.error .malformedPath)).output = "a\n" := by
  obtain ⟨hroom, -⟩ := runBatch_isolates_failures (o := wordsAround 2) rfl (by decide) rfl (by decide +kernel)
    marker ⟨0, 0⟩ (.error .malformedPath)
  obtain ⟨-, hfull⟩ := runBatch_isolates_failures (o := wordsAround 11) rfl (by decide) rfl (by decide +kernel)
    marker ⟨0, 0⟩ (.error .malformedPath)
  obtain ⟨before, i, behind, -, -, -, -, hothers⟩ := hfull (by decide +kernel)
  rw [hroom (by decide +kernel)]
  refine ⟨by decide +kernel, by decide +kernel, by decide +kernel, before.length + 1, fun others => ?_⟩
  rw [hothers others]
  decide +kernel

/-- A batch of nothing does not end well, though nothing in it fails: the command asks for something to do. -/
theorem empty_batch_refused :
    ¬ ∀ (p : Illustrator) (l : Lament) (o : Options) (c : Conversion) (content : Except FileFault ByteArray),
      o.conversion? = some c → o.path? = none → (∀ i ∈ argumentItems o.items, Settled c.convert i) →
      let issues := (argumentItems o.items).filterMap (issue? c.convert)
      issues.length < issueLimit →
        (runBatch p l o content).exit = .status (if issues.isEmpty then 0 else 1) := by
  intro h
  have hexit := h marker ⟨0, 0⟩ .default _ (.error .malformedPath) rfl rfl nofun (by decide)
  cases hexit

end NarseseDialects.CommandLine
