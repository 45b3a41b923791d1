import QueryTail.Proofs.Console.Selection

/-!
# What a run leaves for the next

The preferences that a run saves are stable: a run with the same settings file that finds them, and
is given no command line, saves just these preferences again (`preferences_again`).

Each preference has a reason of its own. A number that is saved lies in its range, so that it is
preferred the next time; the names of nodes are names of the settings; the pattern of the filter has
compiled before.
-/

namespace QueryTail.Console

variable {compile : String → Option Matcher} {settings : Settings} {saved : Option Preferences}
  {arguments : Arguments}

/-- The nodes selected are in ascending order. -/
theorem selectNodes_ascending (source : LogSource) (saved : Option Preferences)
    (arguments : Arguments) : (selectNodes source saved arguments).Pairwise (· < ·) := by
  unfold selectNodes
  split
  · exact source.nodeIds_ascending
  · exact source.nodeIds_ascending.sublist List.filter_sublist

/-- Only nodes of the source are selected. -/
theorem selectNodes_subset (source : LogSource) (saved : Option Preferences)
    (arguments : Arguments) : selectNodes source saved arguments ⊆ source.nodeIds := by
  unfold selectNodes
  split
  · exact List.Subset.refl _
  · exact List.filter_subset_self _

/-- A source with nodes has a selection, whatever was saved or asked for. -/
theorem selectNodes_ne_nil {source : LogSource} (populated : source.nodes ≠ [])
    (saved : Option Preferences) (arguments : Arguments) :
    selectNodes source saved arguments ≠ [] := by
  unfold selectNodes
  split
  · exact mt LogSource.nodeIds_eq_nil_iff.mp populated
  · assumption

/-- A filter that a run chooses is compiled: its matcher comes from its pattern. -/
theorem compiled_of_chooseFilter {filter : Filter}
    (faithful : ∀ pattern matcher, compile pattern = some matcher → matcher.pattern = pattern)
    (chosen : chooseFilter compile saved arguments = .ok filter) : filter.Compiled compile := by
  unfold chooseFilter at chosen
  dsimp only at chosen
  split at chosen
  · obtain rfl := Except.ok.inj chosen
    exact SavedFilter.compiled_restore faithful
  · exact Filter.compiled_of_setPattern faithful chosen

/-- A saved number that lies in its range is preferred. -/
theorem preferNumber_toUInt64 {limits : Limits} {number : Nat}
    (small : limits.greatest < UInt64.size) (inside : limits.holds number = true) (held : Nat) :
    Settings.preferNumber limits number.toUInt64 held = number := by
  have fits : number < UInt64.size := (Limits.holds_iff.mp inside).2.trans_lt small
  have same : number.toUInt64.toNat = number := UInt64.toNat_ofNat_of_lt' fits
  rw [Settings.preferNumber_of_holds (by rwa [same]), same]

/-- The preferences of a run, found by a run with the same settings file and without a command line,
are the preferences of that run. -/
theorem Begun.preferences_eq {first again : Console}
    (faithful : ∀ pattern matcher, compile pattern = some matcher → matcher.pattern = pattern)
    (within : settings.WithinLimits) (plain : arguments.nodes = [])
    (begun : Begun compile settings saved arguments first)
    (begunAgain : Begun compile settings (some first.preferences) .none again) :
    again.preferences = first.preferences := by
  have firstWithin : first.settings.WithinLimits := by
    rw [begun.settings_eq]
    exact within.adjust saved arguments
  have adjusted : again.settings = settings.withPreferences (some first.preferences) :=
    begunAgain.settings_eq
  have firstNodes : first.settings.nodes = settings.nodes := by
    rw [begun.settings_eq, Settings.nodes_adjust plain]
  have againNodes : again.settings.nodes = settings.nodes := by
    rw [adjusted, Settings.nodes_withPreferences]
  have capacity : again.view.capacity = first.view.capacity := by
    have inside : Limits.capacity.holds first.view.capacity = true := by
      rw [begun.capacity_eq]
      exact Limits.holds_clamp _ _
    have preferred : again.settings.capacity = first.view.capacity := by
      rw [adjusted]
      exact preferNumber_toUInt64 (by decide) inside settings.capacity
    rw [begunAgain.capacity_eq, preferred, Limits.clamp_of_holds inside]
  have policy : again.view.policy = first.view.policy := by
    rw [begunAgain.policy_eq, adjusted]
    rfl
  have pageSize : again.settings.pageSize = first.settings.pageSize := by
    rw [adjusted]
    exact preferNumber_toUInt64 (by decide) firstWithin.pageSize settings.pageSize
  have interval : again.settings.interval = first.settings.interval := by
    rw [adjusted]
    exact preferNumber_toUInt64 (by decide) firstWithin.interval settings.interval
  have selected : again.selected = first.selected := by
    have ascending : first.selected.Pairwise (· < ·) := by
      rw [begun.selected_eq]
      exact selectNodes_ascending _ _ _
    have known : first.selected ⊆ (LogSource.ofNodes again.settings.nodes).nodeIds := by
      rw [begun.selected_eq, againNodes, ← firstNodes]
      exact selectNodes_subset _ _ _
    have named : first.selected ≠ [] := by
      rw [begun.selected_eq]
      exact selectNodes_ne_nil begun.populated _ _
    rw [begunAgain.selected_eq]
    exact selectNodes_some rfl ascending known named
  have filter :
      SavedFilter.ofFilter again.view.filter = SavedFilter.ofFilter first.view.filter := by
    have restored : again.view.filter =
        (SavedFilter.ofFilter first.view.filter).restore compile :=
      (Except.ok.inj begunAgain.filter_eq).symm
    rw [restored]
    exact SavedFilter.ofFilter_restore (compiled_of_chooseFilter faithful begun.filter_eq)
  simp only [preferences, capacity, policy, pageSize, interval, selected, filter]

/-- A run saves preferences that are stable: a run with the same settings file that finds them, and
is given no command line, comes to its end and saves the same preferences again, wherever it takes
place. Either run leaves a file that is loaded as these preferences, if saving succeeds
(`Ending.Kept`). That a run polls for one round does not matter. However long either run watches,
and whatever it is told, it holds these preferences. -/
theorem preferences_again (compile : String → Option Matcher)
    (faithful : ∀ pattern matcher, compile pattern = some matcher → matcher.pattern = pattern)
    (settings : Settings) (within : settings.WithinLimits) (saved : Option Preferences)
    (arguments : Arguments) (plain : arguments.nodes = []) (path : String)
    (around : Surroundings) (ending : Ending)
    (ended : (run compile settings saved arguments path around).2.2 = .ok ending) :
    let preferences := ending.preferences
    ending.Kept path (run compile settings saved arguments path around).2.1 ∧
      (∀ path around,
        let left := run compile settings (some preferences) .none path around
        ∃ again, left.2.2 = .ok again ∧ again.preferences = preferences ∧
          again.Kept path left.2.1) ∧
      ∃ first again,
        begin compile settings saved arguments = .ok first ∧
        begin compile settings (some preferences) .none = .ok again ∧
        ∀ looks, (first.watch looks).preferences = preferences ∧
          (again.watch looks).preferences = preferences := by
  intro preferences
  obtain ⟨first, begun, begins, kept⟩ := begin_of_run ended
  change preferences = first.preferences at begins
  have facts := begun_of_begin begun
  have populated : settings.nodes ≠ [] := by
    have adjusted := facts.populated
    rwa [facts.settings_eq, Settings.nodes_adjust plain] at adjusted
  obtain ⟨again, begunAgain⟩ := begin_none compile populated (some first.preferences)
  have same : again.preferences = first.preferences :=
    facts.preferences_eq faithful within plain (begun_of_begin begunAgain)
  rw [begins]
  refine ⟨kept, fun path around => ?_, first, again, begun, begunAgain, fun looks => ⟨?_, ?_⟩⟩
  · obtain ⟨ending, ends⟩ := exists_of_begin_none begunAgain path around
    obtain ⟨other, begunOther, holds, keptAgain⟩ := begin_of_run ends
    obtain rfl : again = other := Except.ok.inj (begunAgain.symm.trans begunOther)
    exact ⟨ending, ends, holds.trans same, keptAgain⟩
  · exact first.preferences_watch looks
  · rw [again.preferences_watch looks, same]

/-- The file names a node that is gone, its capacity and its interval are out of range, and its
pattern, which has only letters, is found as a text is. The command line asks for another capacity
and another policy. The second run loads what the first has saved. -/
theorem preferences_again_filtered :
    let settings : Settings := { Settings.standard with nodes := [⟨"ns1", "ns1.jsonl"⟩] }
    let saved : Preferences :=
      { version := Preferences.currentVersion
        capacity := 0
        policy := .reset
        pageSize := 25
        interval := 1
        selected := ["ns2", "ns1"]
        filter := { SavedFilter.none with sources := ["ns1", "ns0", "ns1"], pattern := "ads" } }
    let arguments : Arguments := { Arguments.none with capacity := some 7, retain := true }
    let stable : Preferences :=
      { saved with
        capacity := 7
        policy := .retain
        interval := settings.interval.toUInt64
        selected := ["ns1"]
        filter := { saved.filter with sources := ["ns0", "ns1"] } }
    let path := "session.json"
    let around : Surroundings := ⟨.empty [], ⟨⟨[]⟩, none⟩, []⟩
    let compile : String → Option Matcher := fun pattern =>
      some ⟨pattern, fun text => Filter.occursIn pattern.toList text.toList⟩
    let after := (run compile settings (some saved) arguments path around).2.1
    let found := Preferences.load after.files path
    let last := (run compile settings found .none path after).2.1
    ∃ ending again : Ending,
      (∀ pattern matcher, compile pattern = some matcher → matcher.pattern = pattern) ∧
      settings.WithinLimits ∧ arguments.nodes = [] ∧
      (run compile settings (some saved) arguments path around).2.2 = .ok ending ∧
      ending.preferences = stable ∧ found = some stable ∧
      (run compile settings found .none path after).2.2 = .ok again ∧
      again.preferences = stable ∧ Preferences.load last.files path = some stable := by
  intro settings saved arguments stable path around compile after found last
  have faithful :
      ∀ pattern matcher, compile pattern = some matcher → matcher.pattern = pattern := by
    intro pattern matcher compiled
    rw [← Option.some.inj compiled]
  have within : settings.WithinLimits := { Settings.withinLimits_standard with }
  have saves : (run compile settings (some saved) arguments path around).2.2.bind Ending.saving =
      .ok () := by
    decide +kernel
  have holds : (run compile settings (some saved) arguments path around).2.2.map
      Ending.preferences = .ok stable := by
    decide +kernel
  have unlogged : after.log.path = none := by decide +kernel
  obtain ⟨ending, ended, loaded⟩ :=
    exists_loaded_of_run saves (Surroundings.logsApart_of_unlogged unlogged _)
  rw [ended] at holds
  have same : ending.preferences = stable := Except.ok.inj holds
  rw [same] at loaded
  have savesAgain : (run compile settings (some stable) .none path after).2.2.bind Ending.saving =
      .ok () := by
    decide +kernel
  have unloggedAgain : (run compile settings (some stable) .none path after).2.1.log.path =
      none := by
    decide +kernel
  obtain ⟨-, stays, -⟩ := preferences_again compile faithful settings within (some saved) arguments
    rfl path around ending ended
  rw [same] at stays
  obtain ⟨again, endedAgain, sameAgain, kept⟩ := stays path after
  rw [endedAgain] at savesAgain
  have loadedAgain := kept.loads savesAgain (Surroundings.logsApart_of_unlogged unloggedAgain _)
  rw [sameAgain] at loadedAgain
  have finds : found = some stable := loaded
  have lastIs : last = (run compile settings (some stable) .none path after).2.1 := by rw [← finds]
  rw [lastIs, finds]
  exact ⟨ending, again, faithful, within, rfl, ended, same, rfl, endedAgain, sameAgain, loadedAgain⟩

end QueryTail.Console
