import Mathlib.Data.List.Forall2
import PluginHost.CommandLine.Answer
import PluginHost.Proofs.Contract.LoadOrder
import PluginHost.Proofs.Manifest.Decoding

/-!
# Queries of the command line

A query registers a manifest, locks the registry, works out the active profiles and looks through
groups of candidates. What it answers can be read off the manifest without any of that: resolving a
contract tells of the entries that may serve it, and a check tells of the contracts for which there
are several.
-/
namespace PluginHost

namespace Manifest

/-- The binding that an entry offers, with the name of its implementation. -/
def offer (manifest : Manifest) (entry : BindingEntry) : Binding String :=
  ⟨entry.contract, manifest.requirement entry.profiles, entry.implementation⟩

/-- The entries of a contract whose requirement is contained in the active profiles, in order. -/
def serving (manifest : Manifest) (active : ProfileSet) (contract : String) :
    List BindingEntry :=
  manifest.bindings.filter fun entry =>
    entry.contract = contract ∧ active.mask &&& (manifest.requirement entry.profiles).mask =
      (manifest.requirement entry.profiles).mask

/-- A file that holds a text is loaded by parsing the text. -/
theorem value_load_toUTF8 (path text : String) :
    (load path (.ok text.toUTF8)).value = (parse text).mapError .invalid := by
  have htext : String.fromUTF8? text.toUTF8 = some text := by
    rw [String.toUTF8_eq_toByteArray, String.fromUTF8?, dif_pos text.isValidUTF8]
    rfl
  have hbytes : ofBytes path text.toUTF8 = (parse text).mapError .invalid := by
    rw [ofBytes, htext]
  rw [load, hbytes]
  cases parse text with
  | error error => rfl
  | ok manifest => rfl

theorem offered_entries (manifest : Manifest) (made : Nat) (entries : List BindingEntry) :
    Load.offered (fun _ entry => entry.implementation) made
        (entries.map fun entry => (entry, manifest.requirement entry.profiles)) =
      entries.map manifest.offer := by
  induction entries generalizing made with
  | nil => rfl
  | cons entry entries ih => exact congrArg (List.cons (manifest.offer entry)) (ih (made + 1))

/-- An open registry takes what all entries offer, and no phase changes. -/
theorem registerInto_eq {manifest : Manifest} {registry : Registry String} {phases : Phases}
    (hentries : manifest.Resolves manifest.spelled) (hopen : registry.isLocked phases = false) :
    (manifest.registerInto registry phases).value =
      ⟨.ok manifest.bindings.length, manifest.bindings.length,
        { registry with
          catalog := registry.catalog.insertAll (manifest.bindings.map manifest.offer) },
        phases⟩ := by
  have hregistered := Load.registerEntries_maker hopen (fun _ entry => entry.implementation) 0
    (manifest.bindings.map fun entry => (entry, manifest.requirement entry.profiles))
  rw [offered_entries, List.length_map, Nat.zero_add] at hregistered
  rw [registerInto, registerWith, manifest.resolvedEntries_eq hentries]
  exact hregistered

end Manifest

namespace CommandLine

/-! ## Loading -/

namespace Selection

/-- The names whose profiles are active. -/
def named (selection : Selection) (manifest : Manifest) : List String :=
  if selection.profiles.isEmpty then manifest.active else selection.profiles

/-- The active profiles. -/
def active (selection : Selection) (manifest : Manifest) : ProfileSet :=
  manifest.unionOf (selection.named manifest) ∪ ⟨selection.mask⟩

/-- What a selection loads: the only phase is locked, and the registry holds what every entry of the
manifest offers. -/
def loaded (selection : Selection) (manifest : Manifest) : Loaded where
  phases := ⟨[{ generation := Phases.firstGeneration, isLocked := true }]⟩
  registry := { phase := ⟨0⟩, catalog := .grouped (manifest.bindings.map manifest.offer) }
  active := selection.active manifest

end Selection

section Loading

variable {selection : Selection} {manifest : Manifest}

theorem Loaded.ofManifest_eq (hentries : manifest.Resolves manifest.spelled)
    (hnamed : manifest.Resolves (selection.named manifest)) :
    Loaded.ofManifest selection manifest = .ok (selection.loaded manifest) := by
  have hactive : (if selection.profiles.isEmpty then manifest.activeProfiles
      else manifest.profileSet selection.profiles) =
        .ok (manifest.unionOf (selection.named manifest)) := by
    rw [← manifest.profileSet_eq hnamed, Manifest.activeProfiles, Selection.named]
    split <;> rfl
  have hopen : Registry.isLocked (α := String) { phase := (Phases.openFirst {}).1 }
      (Phases.openFirst {}).2 = false := rfl
  have hregistered := Manifest.registerInto_eq hentries hopen
  simp only [ofManifest, hregistered, hactive, Catalog.insertAll_empty]
  rfl

/-- What is asked of a selection is asked of what it loads. -/
theorem Selection.answer_eq {read : String → Except ReadError ByteArray}
    (hload : (Manifest.load selection.manifest (read selection.manifest)).value = .ok manifest)
    (hentries : manifest.Resolves manifest.spelled)
    (hnamed : manifest.Resolves (selection.named manifest)) (question : Loaded → Answer) :
    selection.answer read question = question (selection.loaded manifest) := by
  have hloaded : Loaded.ofSelection read selection = .ok (selection.loaded manifest) := by
    rw [Loaded.ofSelection, hload]
    exact Loaded.ofManifest_eq hentries hnamed
  rw [answer, hloaded]

/-- The valid candidates are what the entries offer that may serve. -/
theorem valid_loaded (selection : Selection) (manifest : Manifest) (contract : String) :
    (selection.loaded manifest).registry.valid contract (selection.active manifest) =
      (manifest.serving (selection.active manifest) contract).map manifest.offer := by
  simp only [Registry.valid, Selection.loaded, Catalog.candidates_grouped, Resolution.valid,
    List.filter_map, List.filter_filter, Manifest.serving]
  refine congrArg (List.map manifest.offer) (List.filter_congr fun entry _ => ?_)
  rw [Bool.eq_iff_iff]
  simp only [Function.comp_apply, Bool.and_eq_true, decide_eq_true_eq]
  exact and_comm

end Loading

/-! ## Resolving a contract -/

/-- What is answered if these are the valid candidates. -/
def Answer.ofValid (contract : String) (active : ProfileSet) : List (Binding String) → Answer
  | [] =>
    { succeeded := false
      complaint := Answer.ofLines [(LocateError.unbound contract active).message] }
  | [only] => { output := Answer.ofLines [bindingLine only] }
  | valid =>
    { succeeded := false
      complaint := Answer.ofLines
        ((LocateError.ambiguous contract active valid.length).message ::
          valid.map candidateLine) }

theorem Loaded.resolve_eq {loaded : Loaded}
    (hlocked : loaded.registry.isLocked loaded.phases = true) (contract : String) :
    loaded.resolve contract =
      .ofValid contract loaded.active (loaded.registry.valid contract loaded.active) := by
  have hcandidates : loaded.validCandidates contract =
      loaded.registry.valid contract loaded.active := Resolution.filter_isValidFor ..
  have hlocator : Locator.ofRegistry loaded.registry loaded.phases loaded.active =
      .ok ⟨loaded.registry, loaded.active⟩ := if_pos hlocked
  simp only [resolve, hlocator, Locator.value_locateBinding, hcandidates]
  match loaded.registry.valid contract loaded.active with
  | [] => rfl
  | [only] => rfl
  | first :: second :: others => rfl

/-- How an answer starts that tells of an ambiguity. -/
def Answer.ambiguityWords : String := "ambiguous service binding for "

/-- Whether an answer tells that a contract is ambiguous. -/
def Answer.reportsAmbiguity (answer : Answer) : Bool :=
  ambiguityWords.toList.isPrefixOf answer.complaint.toList

namespace Answer

theorem ofLines_cons (line : String) (lines : List String) :
    ofLines (line :: lines) = line ++ ("\n" ++ ofLines lines) := by
  simp only [ofLines, List.map_cons, String.join_cons, String.append_assoc]

theorem reportsAmbiguity_iff {answer : Answer} :
    answer.reportsAmbiguity = true ↔ ambiguityWords.toList <+: answer.complaint.toList :=
  List.isPrefixOf_iff_prefix

theorem reportsAmbiguity_of_eq {answer : Answer} {rest : String}
    (h : answer.complaint = ambiguityWords ++ rest) : answer.reportsAmbiguity = true := by
  rw [reportsAmbiguity_iff, h, String.toList_append]
  exact List.prefix_append ..

/-- What starts with another letter tells of no ambiguity. -/
theorem not_reportsAmbiguity_of_head? {answer : Answer}
    (h : answer.complaint.toList.head? ≠ some 'a') : answer.reportsAmbiguity = false := by
  refine Bool.eq_false_iff.mpr fun hreports => h ?_
  obtain ⟨rest, hrest⟩ := reportsAmbiguity_iff.mp hreports
  have hwords : ambiguityWords.toList.head? = some 'a' := by decide
  rw [← hrest, List.head?_append, hwords, Option.some_or]

section OfValid

variable {contract : String} {active : ProfileSet} {valid : List (Binding String)}

theorem succeeded_ofValid :
    (ofValid contract active valid).succeeded = true ↔ ∃ only, valid = [only] := by
  match valid with
  | [] => simp [ofValid]
  | [only] => simp [ofValid]
  | first :: second :: others => simp [ofValid]

theorem ofValid_of_many (h : 2 ≤ valid.length) :
    ofValid contract active valid =
      { succeeded := false
        complaint := ofLines ((LocateError.ambiguous contract active valid.length).message ::
          valid.map candidateLine) } := by
  match valid with
  | [] => cases h
  | [only] => cases h; contradiction
  | first :: second :: others => rfl

theorem message_unbound (contract : String) (active : ProfileSet) :
    (LocateError.unbound contract active).message =
      s!"no service binding for {contract} under profiles {active}" := rfl

theorem message_ambiguous (contract : String) (active : ProfileSet) (count : Nat) :
    (LocateError.ambiguous contract active count).message =
      s!"ambiguous service binding for {contract} under profiles {active}: " ++
        s!"{count} candidates are valid" := rfl

theorem head?_complaint_unbound (contract : String) (active : ProfileSet) :
    (ofValid contract active []).complaint.toList.head? = some 'n' := by
  have hwords : (toString "no service binding for ").toList.head? = some 'n' := by decide
  rw [ofValid, ofLines_cons, message_unbound]
  simp only [String.append_assoc]
  rw [String.toList_append, List.head?_append, hwords, Option.some_or]

theorem reportsAmbiguity_ambiguous (contract : String) (active : ProfileSet)
    (first second : Binding String) (others : List (Binding String)) :
    (ofValid contract active (first :: second :: others)).reportsAmbiguity = true := by
  have hmany : 2 ≤ (first :: second :: others).length := Nat.le_add_left ..
  have hvalid : ofValid contract active (first :: second :: others) = _ := ofValid_of_many hmany
  have hcomplaint := congrArg complaint hvalid
  rw [ofLines_cons, message_ambiguous] at hcomplaint
  simp only [String.append_assoc] at hcomplaint
  exact reportsAmbiguity_of_eq hcomplaint

theorem reportsAmbiguity_ofValid :
    (ofValid contract active valid).reportsAmbiguity = true ↔ 2 ≤ valid.length := by
  match valid with
  | [] =>
    have hnot : (ofValid contract active []).reportsAmbiguity = false :=
      not_reportsAmbiguity_of_head? (by rw [head?_complaint_unbound]; decide)
    simp [hnot]
  | [only] =>
    have hnot : (ofValid contract active [only]).reportsAmbiguity = false :=
      not_reportsAmbiguity_of_head? (by simp [ofValid])
    simp [hnot]
  | first :: second :: others =>
    exact iff_of_true (reportsAmbiguity_ambiguous ..) (Nat.le_add_left ..)

end OfValid

end Answer

theorem resolve_loaded (selection : Selection) (manifest : Manifest) (contract : String) :
    (selection.loaded manifest).resolve contract =
      .ofValid contract (selection.active manifest)
        ((manifest.serving (selection.active manifest) contract).map manifest.offer) := by
  rw [← valid_loaded]
  exact Loaded.resolve_eq rfl contract

/-- An answer about a contract that tells of the entries that may serve it. -/
structure Tells (manifest : Manifest) (active : ProfileSet) (contract : String)
    (serving : List BindingEntry) (answer : Answer) : Prop where
  succeeded : answer.succeeded = true ↔ serving.length = 1
  served : ∀ entry, serving = [entry] →
    let required := manifest.requirement entry.profiles
    answer = {
      output := Answer.ofLines [s!"{contract} -> {entry.implementation} (requires {required})"] }
  ambiguous : answer.reportsAmbiguity = true ↔ 2 ≤ serving.length
  /-- All of them are told in order, and counted. -/
  candidates : 2 ≤ serving.length →
    answer = {
      succeeded := false
      complaint := Answer.ofLines
        ((s!"ambiguous service binding for {contract} under profiles {active}: " ++
            s!"{serving.length} candidates are valid") ::
          serving.map fun entry =>
            let required := manifest.requirement entry.profiles
            s!"  candidate {entry.implementation} (requires {required})") }

theorem contract_of_mem_serving {manifest : Manifest} {active : ProfileSet} {contract : String}
    {entry : BindingEntry} (h : entry ∈ manifest.serving active contract) :
    entry.contract = contract :=
  (of_decide_eq_true (List.mem_filter.mp h).2).1

theorem tells_resolve (selection : Selection) (manifest : Manifest) (contract : String) :
    Tells manifest (selection.active manifest) contract
      (manifest.serving (selection.active manifest) contract)
      ((selection.loaded manifest).resolve contract) := by
  rw [resolve_loaded]
  have hcontract : ∀ entry ∈ manifest.serving (selection.active manifest) contract,
      entry.contract = contract := fun _ => contract_of_mem_serving
  generalize manifest.serving (selection.active manifest) contract = serving at hcontract ⊢
  constructor
  · rw [Answer.succeeded_ofValid, ← List.length_eq_one_iff, List.length_map]
  · rintro entry rfl
    rw [← hcontract entry (List.mem_singleton_self entry)]
    rfl
  · rw [Answer.reportsAmbiguity_ofValid, List.length_map]
  · intro hmany
    have hlines : (serving.map manifest.offer).map candidateLine = serving.map fun entry =>
        let required := manifest.requirement entry.profiles
        s!"  candidate {entry.implementation} (requires {required})" := List.map_map ..
    rw [Answer.ofValid_of_many (by rwa [List.length_map]), hlines, List.length_map,
      Answer.message_ambiguous]

/-! ## Checking a manifest -/

/-- The contracts that are answered with an ambiguity, in the order in which they first occur in a
manifest. -/
def rivals (manifest : Manifest) (answerTo : String → Answer) : List String :=
  (manifest.bindings.map (·.contract)).eraseDups.filter fun contract =>
    (answerTo contract).reportsAmbiguity

/-- An answer about a manifest that tells of the contracts that are answered with an ambiguity. -/
structure Summarizes (manifest : Manifest) (active : ProfileSet) (answerTo : String → Answer)
    (answer : Answer) : Prop where
  succeeded : answer.succeeded = true ↔
    ∀ contract, (answerTo contract).reportsAmbiguity = false
  /-- No other contract is answered with an ambiguity. -/
  complete : ∀ contract, (answerTo contract).reportsAmbiguity = true →
    contract ∈ rivals manifest answerTo
  /-- There is a line for each, which names the first two entries that may serve it. -/
  lines : answer.succeeded = false →
    ∃ lines, answer = { succeeded := false, output := Answer.ofLines lines } ∧
      (rivals manifest answerTo).Forall₂ (fun contract line => ∃ first second others,
        manifest.serving active contract = first :: second :: others ∧
          line = s!"{contract}: {first.implementation} and " ++
            s!"{second.implementation} are both valid under {active}") lines

section Check

variable (selection : Selection) (manifest : Manifest)

theorem reportsAmbiguity_eq_isAmbiguous (contract : String) :
    ((selection.loaded manifest).resolve contract).reportsAmbiguity =
      ((selection.loaded manifest).registry.resolve contract
        (selection.active manifest)).value.isAmbiguous := by
  rw [Bool.eq_iff_iff, resolve_loaded, Answer.reportsAmbiguity_ofValid, Registry.value_resolve,
    Resolution.isAmbiguous_ofValid, valid_loaded]

theorem contracts_ambiguities_loaded :
    ((selection.loaded manifest).registry.ambiguities (selection.active manifest)).map
        (·.contract) = rivals manifest (selection.loaded manifest).resolve := by
  have hcatalog : (selection.loaded manifest).registry.catalog =
      .grouped (manifest.bindings.map manifest.offer) := rfl
  have hcontracts : (manifest.bindings.map manifest.offer).map (·.contract) =
      manifest.bindings.map (·.contract) := List.map_map ..
  rw [Registry.contracts_ambiguities hcatalog, hcontracts, rivals]
  exact List.filter_congr fun contract _ =>
    (reportsAmbiguity_eq_isAmbiguous selection manifest contract).symm

theorem succeeded_check (loaded : Loaded) :
    loaded.check.succeeded = true ↔ loaded.registry.ambiguities loaded.active = [] := by
  rw [Loaded.check]
  cases loaded.registry.ambiguities loaded.active with
  | nil => simp
  | cons first others => simp

theorem check_of_ambiguities {loaded : Loaded} (h : loaded.check.succeeded = false) :
    loaded.check =
      { succeeded := false
        output := Answer.ofLines
          ((loaded.registry.ambiguities loaded.active).map ambiguityLine) } := by
  rw [Loaded.check] at h ⊢
  cases hambiguities : loaded.registry.ambiguities loaded.active with
  | nil => simp [hambiguities] at h
  | cons first others => rfl

theorem mem_rivals {contract : String}
    (h : ((selection.loaded manifest).resolve contract).reportsAmbiguity = true) :
    contract ∈ rivals manifest (selection.loaded manifest).resolve := by
  have hmany := (tells_resolve selection manifest contract).ambiguous.mp h
  obtain ⟨entry, hentry⟩ :=
    List.exists_mem_of_length_pos (Nat.lt_of_lt_of_le Nat.two_pos hmany)
  refine List.mem_filter.mpr ⟨List.mem_eraseDups.mpr (List.mem_map.mpr ⟨entry, ?_, ?_⟩), h⟩
  · exact (List.mem_filter.mp hentry).1
  · exact contract_of_mem_serving hentry

/-- An ambiguity names the first two entries that may serve its contract. -/
theorem line_of_mem_ambiguities {ambiguity : Ambiguity String}
    (h : ambiguity ∈ (selection.loaded manifest).registry.ambiguities (selection.active manifest)) :
    ∃ first second others,
      manifest.serving (selection.active manifest) ambiguity.contract = first :: second :: others ∧
        ambiguityLine ambiguity = s!"{ambiguity.contract}: {first.implementation} and " ++
          s!"{second.implementation} are both valid under {selection.active manifest}" := by
  have hcatalog : (selection.loaded manifest).registry.catalog =
      .grouped (manifest.bindings.map manifest.offer) := rfl
  obtain ⟨hprofiles, hresolved⟩ := Registry.resolve_of_mem_ambiguities hcatalog h
  rw [Registry.value_resolve, valid_loaded, Resolution.ofValid_eq_ambiguous_iff] at hresolved
  obtain ⟨bindings, hbindings⟩ := hresolved
  match hserving : manifest.serving (selection.active manifest) ambiguity.contract with
  | [] => simp [hserving] at hbindings
  | [only] => simp [hserving] at hbindings
  | first :: second :: others =>
    rw [hserving, List.map_cons, List.map_cons, List.cons.injEq, List.cons.injEq] at hbindings
    obtain ⟨hfirst, hsecond, -⟩ := hbindings
    refine ⟨first, second, others, rfl, ?_⟩
    rw [ambiguityLine, ← hfirst, ← hsecond, hprofiles]
    rfl

theorem summarizes_check :
    Summarizes manifest (selection.active manifest) (selection.loaded manifest).resolve
      (selection.loaded manifest).check where
  succeeded := by
    have hrivals := contracts_ambiguities_loaded selection manifest
    rw [succeeded_check]
    constructor
    · intro hnone contract
      have hambiguities : (selection.loaded manifest).registry.ambiguities
          (selection.active manifest) = [] := hnone
      rw [hambiguities] at hrivals
      refine Bool.eq_false_iff.mpr fun hreports => ?_
      have hmem := mem_rivals selection manifest hreports
      rw [← hrivals] at hmem
      cases hmem
    · intro hnone
      have hempty : rivals manifest (selection.loaded manifest).resolve = [] :=
        List.filter_eq_nil_iff.mpr fun contract _ => Bool.eq_false_iff.mp (hnone contract)
      exact List.map_eq_nil_iff.mp (hrivals.trans hempty)
  complete := fun _ => mem_rivals selection manifest
  lines := fun h => by
    refine ⟨_, check_of_ambiguities h, ?_⟩
    rw [← contracts_ambiguities_loaded, List.forall₂_map_left_iff, List.forall₂_map_right_iff]
    exact List.forall₂_same.mpr fun ambiguity => line_of_mem_ambiguities selection manifest

end Check

/-! ## Both queries -/

/-- Where a manifest can be loaded and all names in question stand for sets, resolving tells of the
entries that may serve a contract under the active profiles, and checking tells of the contracts
that resolving calls ambiguous. -/
theorem queries_agree (read : String → Except ReadError ByteArray) (selection : Selection)
    {manifest : Manifest}
    (hload : (Manifest.load selection.manifest (read selection.manifest)).value = .ok manifest)
    (hentries : manifest.Resolves manifest.spelled)
    (hnamed : manifest.Resolves (selection.named manifest)) :
    let active := selection.active manifest
    let answerTo := fun contract => (Command.resolve selection contract).answer read
    (∀ contract, Tells manifest active contract (manifest.serving active contract)
        (answerTo contract)) ∧
      Summarizes manifest active answerTo ((Command.check selection).answer read) := by
  have hresolve : (fun contract => (Command.resolve selection contract).answer read) =
      (selection.loaded manifest).resolve :=
    funext fun contract => Selection.answer_eq hload hentries hnamed (·.resolve contract)
  have hcheck : (Command.check selection).answer read = (selection.loaded manifest).check :=
    Selection.answer_eq hload hentries hnamed Loaded.check
  intro active answerTo
  have hanswer : answerTo = (selection.loaded manifest).resolve := hresolve
  rw [hanswer, hcheck]
  exact ⟨tells_resolve selection manifest, summarizes_check selection manifest⟩

/-- A manifest of two clocks, one of which needs a profile. -/
def clocksManifest : Manifest where
  bindings := [⟨"clock", "Quartz", .names ["server"]⟩, ⟨"clock", "Sundial", .mask 0⟩]

def clocksText : String :=
  "[[binding]]\ncontract = 'clock'\nimplementation = 'Quartz'\nprofiles = ['server']\n" ++
    "[[binding]]\ncontract = 'clock'\nimplementation = 'Sundial'\n"

theorem queries_agree_clocks :
    let read : String → Except ReadError ByteArray := fun _ => .ok clocksText.toUTF8
    let plain : Selection := { manifest := "clocks.toml" }
    let server : Selection := { manifest := "clocks.toml", profiles := ["server"] }
    (Command.resolve plain "clock").answer read =
        { output := Answer.ofLines ["clock -> Sundial (requires any)"] } ∧
      (Command.resolve server "clock").answer read =
        { succeeded := false
          complaint := Answer.ofLines
            ["ambiguous service binding for clock under profiles SERVER: 2 candidates are valid",
              "  candidate Quartz (requires SERVER)", "  candidate Sundial (requires any)"] } ∧
      (Command.check server).answer read =
        { succeeded := false
          output := Answer.ofLines ["clock: Quartz and Sundial are both valid under SERVER"] } := by
  intro read plain server
  have hparsed : (Manifest.parse clocksText).toOption = some clocksManifest := by decide +kernel
  have hload : (Manifest.load "clocks.toml" (read "clocks.toml")).value = .ok clocksManifest := by
    rw [Manifest.value_load_toUTF8, eq_ok_of_toOption hparsed]
    rfl
  have hnamed : clocksManifest.Resolves ["server"] := fun name hname =>
    ⟨⟨8⟩, List.mem_singleton.mp hname ▸ rfl⟩
  have hnone : clocksManifest.Resolves [] := fun _ hname => nomatch hname
  obtain ⟨hplain, -⟩ := queries_agree read plain hload hnamed hnone
  obtain ⟨hserver, hcheck⟩ := queries_agree read server hload hnamed hnamed
  have hone : clocksManifest.serving (plain.active clocksManifest) "clock" =
      [⟨"clock", "Sundial", .mask 0⟩] := by decide +kernel
  have hboth : clocksManifest.serving (server.active clocksManifest) "clock" =
      clocksManifest.bindings := by decide +kernel
  have hserved := (hplain "clock").served _ hone
  have hcandidates := (hserver "clock").candidates (by rw [hboth]; decide)
  rw [hboth] at hcandidates
  have hreports : ((Command.resolve server "clock").answer read).reportsAmbiguity = true :=
    (hserver "clock").ambiguous.mpr (by rw [hboth]; decide)
  have hfails : ((Command.check server).answer read).succeeded = false :=
    Bool.eq_false_iff.mpr fun h => Bool.eq_false_iff.mp (hcheck.succeeded.mp h "clock") hreports
  have hrivals : rivals clocksManifest
      (fun contract => (Command.resolve server contract).answer read) = ["clock"] := by
    have hcontracts : (clocksManifest.bindings.map (·.contract)).eraseDups = ["clock"] := by decide
    rw [rivals, hcontracts]
    exact List.filter_cons_of_pos hreports
  obtain ⟨lines, hanswer, hlines⟩ := hcheck.lines hfails
  rw [hrivals, List.forall₂_cons_left_iff] at hlines
  obtain ⟨line, rest, ⟨first, second, others, hserving, rfl⟩, hrest, rfl⟩ := hlines
  rw [List.forall₂_nil_left_iff] at hrest
  rw [hboth] at hserving
  cases hserving
  cases hrest
  exact ⟨hserved.trans (by decide +kernel), hcandidates.trans (by decide +kernel),
    hanswer.trans (by decide +kernel)⟩

end CommandLine

end PluginHost
