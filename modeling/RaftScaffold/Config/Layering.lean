import RaftScaffold.Config.Basic

set_option autoImplicit false

/-! # The order of the sources

`load_from_opt` merges the application file, the reference file and the environment in this order, so that the
reference file wins over the application file. For which keys that makes no difference is
`layered_iff`. -/

namespace RaftScaffold

open Layers

variable {ν : Type}

/-- What the two files of a command line set; without an application file nothing is set by it. -/
structure SourcesRead (crates : Crates ν) (opt : Opt) (reference : String)
    (application defaults : Layer String ν) : Prop where
  application : match opt.configurationPath with
    | some path => crates.readFile path = .ok application
    | none => application = fun _ => none
  reference : crates.readFile reference = .ok defaults

/-- The value of a key that a layered configuration has: the environment's, else that of the application file,
    else that of the reference file. -/
def layeredValue (environment application defaults : Layer String ν) (key : String) : Option ν :=
  (environment key).or ((application key).or (defaults key))

theorem layeredValue_eq (environment application defaults : Layer String ν) (key : String) :
    layeredValue environment application defaults key =
      mergeAll ([] ++ [defaults, application] ++ [environment]) key := by
  show _ = Layers.merge (Layers.merge (Layers.merge (fun _ => none) defaults) application) environment key
  simp only [layeredValue, Layers.merge, Option.or_none]

theorem Crates.LastWins.merge_eq {crates : Crates ν} (hmerge : crates.LastWins) :
    crates.merge = Layers.merge :=
  funext fun base => funext fun layer => funext fun key => hmerge base layer key

/-- `load_from_opt` merges what it reads in the order application, reference, environment. -/
theorem Configuration.mergeSources_eq {crates : Crates ν} (hlast : crates.LastWins) {opt : Opt}
    {reference : String} {application defaults : Layer String ν}
    (hread : SourcesRead crates opt reference application defaults) :
    Configuration.mergeSources crates opt reference =
      .ok (mergeAll ([] ++ [application, defaults] ++ [crates.environment])) := by
  have happlication := hread.application
  unfold Configuration.mergeSources
  cases hpath : opt.configurationPath with
  | some path =>
      rw [hpath] at happlication
      simp only [happlication, hread.reference, hlast.merge_eq, expectOk, bind, Except.bind]
      rfl
  | none =>
      rw [hpath] at happlication
      simp only [happlication, hread.reference, hlast.merge_eq, expectOk, bind, Except.bind]
      rfl

/-- **Which keys are layered.** What `load_from_opt` uses for a key is its layered value exactly when the
    environment sets the key, or not both of the files set it, or both give it one value. -/
theorem layered_iff (crates : Crates ν) (hlast : crates.LastWins) (opt : Opt) (reference : String)
    (application defaults : Layer String ν)
    (hread : SourcesRead crates opt reference application defaults) :
    ∃ config, Configuration.mergeSources crates opt reference = .ok config ∧
      Configuration.loadFromOpt crates opt reference =
        Configuration.loadFromConfig crates opt.host config ∧
      ∀ key, config key = layeredValue crates.environment application defaults key ↔
        (crates.environment key).isSome ∨ application key = none ∨ defaults key = none ∨
          application key = defaults key := by
  have hmerge := Configuration.mergeSources_eq hlast hread
  refine ⟨_, hmerge, ?_, fun key => ?_⟩
  · rw [Configuration.loadFromOpt, hmerge]
    rfl
  · rw [layeredValue_eq, mergeAll_swap_iff]
    simp only [List.mem_singleton, exists_eq_left]

/-! ## An application file that overrides a default -/

/-- Crates that find `application` in the application file, `defaults` in the reference file and no
    variables. -/
def layeredCrates (application defaults : Layer String Int64) : Crates Int64 :=
  { Configuration.sampleCrates (Configuration.sampleSchema []) with
    readFile := fun path =>
      if path = "config/reference.toml" then .ok defaults else .ok application }

def sampleOpt : Opt := { host := "node_a", configurationPath := some "config/application.toml" }

theorem layeredCrates_sourcesRead (application defaults : Layer String Int64) :
    SourcesRead (layeredCrates application defaults) sampleOpt "config/reference.toml" application
      defaults where
  application := by simp [sampleOpt, layeredCrates]
  reference := by simp [layeredCrates]

theorem layeredCrates_lastWins (application defaults : Layer String Int64) :
    (layeredCrates application defaults).LastWins := fun _ _ _ => rfl

/-- Files that set different keys. -/
theorem layered_disjoint :
    ∃ config, Configuration.mergeSources
        (layeredCrates (fun key => if key = "nodes" then some 3 else none)
          (fun key => if key = "ring_replicas" then some 10 else none))
        sampleOpt "config/reference.toml" = .ok config ∧
      config "nodes" = some 3 := by
  obtain ⟨config, hmerge, -, hvalue⟩ := layered_iff
    (layeredCrates (fun key => if key = "nodes" then some 3 else none)
      (fun key => if key = "ring_replicas" then some 10 else none))
    (layeredCrates_lastWins _ _) sampleOpt "config/reference.toml" _ _ (layeredCrates_sourcesRead _ _)
  exact ⟨config, hmerge, (hvalue "nodes").2 (.inr (.inr (.inl rfl)))⟩

/-- An application file that raises the least election timeout to half a second is overridden. -/
theorem layered_fails :
    ∃ (crates : Crates Int64) (opt : Opt) (reference key : String)
      (application defaults config : Layer String Int64),
      crates.LastWins ∧ SourcesRead crates opt reference application defaults ∧
        Configuration.mergeSources crates opt reference = .ok config ∧
        application key = some 500 ∧ config key = some 200 ∧
        config key ≠ layeredValue crates.environment application defaults key := by
  let application : Layer String Int64 := fun key => if key = "election_timeout_min" then some 500 else none
  let defaults : Layer String Int64 := fun key => if key = "election_timeout_min" then some 200 else none
  have hread := layeredCrates_sourcesRead application defaults
  have hlast := layeredCrates_lastWins application defaults
  exact ⟨_, _, _, "election_timeout_min", application, defaults, _, hlast, hread,
    Configuration.mergeSources_eq hlast hread, rfl, rfl, by decide⟩

end RaftScaffold
