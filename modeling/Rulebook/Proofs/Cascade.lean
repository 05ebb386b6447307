/-
  Rulebook.Proofs.Cascade

  What decides the outcome of a set: the rules up to the first that fails, or,
  if none does, all rules and then the children.  The children of a set are
  words, so running them is calling the text that joins them by single spaces
  (`run_cascades`).
-/
import Rulebook.Kind.Counter
import Rulebook.Proofs.Words

namespace Rulebook

/-! ## Rules that pass and the first that fails -/

section Order

variable [Plugins] [PluginTests] {fs : FileSystem} {run : Runner} {input : Input}

/-- Rules that are tested in order, from one session to another, and all pass. -/
inductive Passes (fs : FileSystem) (run : Runner) (input : Input) :
    List Rule → Session → Session → Prop
  | nil (session : Session) : Passes fs run input [] session session
  | cons {rule : Rule} {rest : List Rule} {start next final : Session}
      (hrule : rule.test fs run input start = some (true, next))
      (hrest : Passes fs run input rest next final) :
      Passes fs run input (rule :: rest) start final

/-- The rule at place `k` is the first that fails.  It leaves the session `final`. -/
def FailsFirst (fs : FileSystem) (run : Runner) (input : Input) (rules : List Rule) (k : Nat)
    (start final : Session) : Prop :=
  ∃ rule before, rules[k]? = some rule ∧ Passes fs run input (rules.take k) start before ∧
    rule.test fs run input before = some (false, final)

theorem Passes.testRules_append {rules : List Rule} {start next : Session}
    (h : Passes fs run input rules start next) (more : List Rule) :
    testRules fs run input (rules ++ more) start = testRules fs run input more next := by
  induction h with
  | nil => rfl
  | cons hrule _ ih =>
    rw [List.cons_append, testRules, hrule]
    exact ih

theorem Passes.testRules {rules : List Rule} {start final : Session}
    (h : Passes fs run input rules start final) :
    testRules fs run input rules start = some (true, final) := by
  have happend := h.testRules_append []
  rw [List.append_nil] at happend
  exact happend

/-- Rules behind the first that fails do not matter. -/
theorem FailsFirst.testRules {rules : List Rule} {k : Nat} {start final : Session}
    (h : FailsFirst fs run input rules k start final) (later : List Rule) :
    testRules fs run input (rules.take (k + 1) ++ later) start = some (false, final) := by
  obtain ⟨rule, before, hrule, hpasses, hfails⟩ := h
  have htake : rules.take (k + 1) = rules.take k ++ [rule] := by
    rw [List.take_add_one, hrule, Option.toList_some]
  rw [htake, List.append_assoc, hpasses.testRules_append, List.singleton_append,
    Rulebook.testRules, hfails]

theorem passes_of_testRules {rules : List Rule} {start final : Session}
    (h : testRules fs run input rules start = some (true, final)) :
    Passes fs run input rules start final := by
  induction rules generalizing start with
  | nil =>
    cases h
    exact .nil _
  | cons rule rest ih =>
    rw [testRules] at h
    split at h
    · next next hrule => exact .cons hrule (ih h)
    · next hstopped => exact absurd h (hstopped final)

theorem exists_failsFirst_of_testRules {rules : List Rule} {start final : Session}
    (h : testRules fs run input rules start = some (false, final)) :
    ∃ k, FailsFirst fs run input rules k start final := by
  induction rules generalizing start with
  | nil => cases h
  | cons rule rest ih =>
    rw [testRules] at h
    split at h
    · next next hrule =>
      -- the first failure of the rest, one place further on
      obtain ⟨k, other, before, hother, hpasses, hfails⟩ := ih h
      exact ⟨k + 1, other, before, hother, .cons hrule hpasses, hfails⟩
    · exact ⟨0, rule, start, rfl, .nil start, h⟩

end Order

/-! ## Sets and their children -/

namespace RuleSet

section Cascade

variable [Plugins]

/-- A set that is made by adding rules and the children that texts name. -/
inductive Built : RuleSet → Prop
  | empty : Built {}
  | push {set : RuleSet} (h : Built set) (rule : Rule) : Built (set.push rule)
  | addChildren {set : RuleSet} (h : Built set) (names : String) : Built (set.addChildren names)

/-- No child of such a set is empty or holds a blank. -/
theorem Built.isWord {set : RuleSet} (h : set.Built) :
    ∀ child ∈ set.children, Text.IsWord child.toList := by
  induction h with
  | empty => simp
  | push _ rule ih => exact ih
  | addChildren _ names ih =>
    intro child hchild
    rcases List.mem_append.mp hchild with hchild | hchild
    · exact ih child hchild
    · exact Text.isWord_of_mem_words hchild

/-- Running the children is calling the text that joins their names. -/
theorem Built.call_intercalate {set : RuleSet} (h : set.Built) (run : Runner) (input : Input)
    (session : Session) :
    run.call (" ".intercalate set.children) input session =
      run.runAll set.children input session := by
  rw [Runner.call, Text.words_intercalate h.isWord]

/-- The first rule of a set that fails leaves the outcome of the set, which is that of the
    rules up to it, whatever rules and children follow.  If no rule fails, the outcome is
    that of calling the joined names of the children on what the rules alone leave. -/
theorem run_cascades [PluginTests] {set : RuleSet} (hset : set.Built) {table : SetTable}
    {fs : FileSystem} {depth : Nat} {input : Input} {start final : Session}
    (hrun : set.run fs (enter table fs depth) input start = some final) :
    ((∃ k, FailsFirst fs (enter table fs depth) input set.rules k start final) ∨
      ∃ passed, Passes fs (enter table fs depth) input set.rules start passed) ∧
    (∀ k after, FailsFirst fs (enter table fs depth) input set.rules k start after →
      final = after ∧
      RuleSet.run fs (enter table fs depth) ⟨set.rules.take (k + 1), []⟩ input start =
        some final ∧
      ∀ later children,
        RuleSet.run fs (enter table fs depth) ⟨set.rules.take (k + 1) ++ later, children⟩
          input start = some final) ∧
    (∀ passed, Passes fs (enter table fs depth) input set.rules start passed →
      RuleSet.run fs (enter table fs depth) ⟨set.rules, []⟩ input start = some passed ∧
      (enter table fs depth).call (" ".intercalate set.children) input passed =
        some final) := by
  refine ⟨?_, ?_, ?_⟩
  · rw [run] at hrun
    split at hrun
    · next passed hpassed => exact .inr ⟨passed, passes_of_testRules hpassed⟩
    · next after hfailed =>
      cases hrun
      exact .inl (exists_failsFirst_of_testRules hfailed)
    · cases hrun
  · intro k after hfails
    have hcut : ∀ later children, RuleSet.run fs (enter table fs depth)
        ⟨set.rules.take (k + 1) ++ later, children⟩ input start = some after := by
      intro later children
      rw [run, hfails.testRules later]
    -- the set itself is its rules up to the failure, the rest of them, and its children
    have hwhole := hcut (set.rules.drop (k + 1)) set.children
    rw [List.take_append_drop] at hwhole
    obtain rfl : final = after := Option.some.inj (hrun.symm.trans hwhole)
    have hbare := hcut [] []
    rw [List.append_nil] at hbare
    exact ⟨rfl, hbare, hcut⟩
  · intro passed hpasses
    rw [run, hpasses.testRules] at hrun
    rw [hset.call_intercalate]
    refine ⟨?_, hrun⟩
    rw [run, hpasses.testRules]
    rfl

end Cascade

section Counters

open Counter

/-- Both rules of the set `root` pass, so its children are called in order.  In the set `b` the
    second rule fails, so the third is not tested and the children are not called. -/
theorem run_cascades_counter :
    let counter (result : Bool) : Rule :=
      ⟨Counter.kind "counter" "counter", Counter.settings "counter" result, ∅⟩
    let print (message : String) : Rule := ⟨.print, .print ⟨some message⟩, ∅⟩
    let root : RuleSet :=
      ((({} : RuleSet).push (print "1")).push (counter true)).addChildren " b\tc "
    let b : RuleSet :=
      (((({} : RuleSet).push (print "2")).push (counter false)).push (print "x")).addChildren "c"
    let c : RuleSet := (({} : RuleSet).push (counter true)).push (print "3")
    let table : SetTable := (Std.ExtTreeMap.insert ∅ "b" b).insert "c" c
    let session (hits : String) (printed : String) : Session :=
      { bindings := Std.ExtTreeMap.insert ∅ "hits" hits, printed }
    root.Built ∧ b.Built ∧
      root.run .empty (enter table .empty 1) .other { bindings := ∅ } =
        some (session "3" "1\n2\n3\n") ∧
      RuleSet.run .empty (enter table .empty 1) ⟨root.rules, []⟩ .other { bindings := ∅ } =
        some (session "1" "1\n") ∧
      (enter table .empty 1).call "b c" .other (session "1" "1\n") =
        some (session "3" "1\n2\n3\n") ∧
      b.run .empty (enter table .empty 1) .other (session "1" "1\n") =
        some (session "2" "1\n2\n") ∧
      FailsFirst .empty (enter table .empty 1) .other b.rules 1 (session "1" "1\n")
        (session "2" "1\n2\n") ∧
      ∀ later children, RuleSet.run .empty (enter table .empty 1)
        ⟨[print "2", counter false] ++ later, children⟩ .other (session "1" "1\n") =
          some (session "2" "1\n2\n") := by
  intro counter print root b c table session
  have hroot : root.Built := ((Built.empty.push _).push _).addChildren _
  have hb : b.Built := (((Built.empty.push _).push _).push _).addChildren _
  have hrun : root.run .empty (enter table .empty 1) .other { bindings := ∅ } =
      some (session "3" "1\n2\n3\n") := by cbv
  have hpasses : Passes .empty (enter table .empty 1) .other root.rules { bindings := ∅ }
      (session "1" "1\n") := passes_of_testRules (by cbv)
  have hrunB : b.run .empty (enter table .empty 1) .other (session "1" "1\n") =
      some (session "2" "1\n2\n") := by cbv
  have hfirst : Passes .empty (enter table .empty 1) .other (b.rules.take 1) (session "1" "1\n")
      (session "1" "1\n2\n") := passes_of_testRules (by cbv)
  have hfails : FailsFirst .empty (enter table .empty 1) .other b.rules 1 (session "1" "1\n")
      (session "2" "1\n2\n") := ⟨counter false, _, rfl, hfirst, by cbv⟩
  obtain ⟨hbare, hcalled⟩ := (run_cascades hroot hrun).2.2 _ hpasses
  obtain ⟨-, -, hcut⟩ := (run_cascades hb hrunB).2.1 1 _ hfails
  exact ⟨hroot, hb, hrun, hbare, hcalled, hrunB, hfails, hcut⟩

end Counters

end RuleSet

end Rulebook
