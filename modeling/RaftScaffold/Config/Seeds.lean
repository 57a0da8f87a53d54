import RaftScaffold.Config.Keyed
import RaftScaffold.Config.Settings
import RaftScaffold.Network.Steps

set_option autoImplicit false

/-! # The seed nodes on their way to the node table

The listed nodes are collected twice: by name into `seed_nodes`, and by node id into the table of the network,
in whatever order the hash map yields them. Both collections keep the last node of a key, and neither refuses
one. The nodes all arrive exactly when no two of them share a name or a node id
(`seedsKept_iff`). -/

namespace RaftScaffold

open Keyed Layers

variable {ν : Type}

namespace Configuration

/-! ## The two collections -/

theorem collectSeedNodes_lookup (nodes : List NodeInfo) (name : String) :
    (collectSeedNodes nodes)[name]? = lookup NodeInfo.name nodes name := by
  have hput : ∀ (seedNodes : SeedNodes) (n : NodeInfo) (name : String),
      (seedNodes.insert n.name n)[name]? = if n.name = name then some (id n) else seedNodes[name]? := by
    intro seedNodes n name
    rw [Std.ExtTreeMap.getElem?_insert]
    simp only [Std.LawfulEqCmp.compare_eq_iff_eq, id]
  rw [collectSeedNodes, foldl_put (fun (seedNodes : SeedNodes) name => seedNodes[name]?) hput]
  simp

/-- The values of the hash map; which order it yields them in is not determined. -/
def seedValues (self : Configuration) : List NodeInfo := self.seedNodes.toList.map Prod.snd

theorem mem_seedValues {c : Configuration} {nodes : List NodeInfo}
    (hc : c.seedNodes = collectSeedNodes nodes) (n : NodeInfo) :
    n ∈ c.seedValues ↔ lookup NodeInfo.name nodes n.name = some n := by
  have hentry : ∀ name, (name, n) ∈ c.seedNodes.toList ↔ lookup NodeInfo.name nodes name = some n := by
    intro name
    rw [Std.ExtTreeMap.mem_toList_iff_getElem?_eq_some, hc, collectSeedNodes_lookup]
  rw [seedValues, List.mem_map]
  constructor
  · rintro ⟨⟨name, n'⟩, hmem, heq⟩
    obtain rfl : n' = n := heq
    have hfound := (hentry name).1 hmem
    rwa [(mem_of_lookup hfound).2]
  · intro hfound
    exact ⟨(n.name, n), (hentry n.name).2 hfound, rfl⟩

end Configuration

theorem Network.configureWith_lookup (network : Network) (sha256 : String → String)
    (seeds : List NodeInfo) (k : NodeId) :
    (network.configureWith sha256 seeds).nodes[k]? =
      ((lookup (NodeInfo.nodeId sha256) seeds k).map fun n =>
        { id := n.nodeId sha256, info := some n, addr := none }).or network.nodes[k]? := by
  refine foldl_put (fun (network : Network) k => network.nodes[k]?) ?_ seeds network k
  intro network n k
  show (network.nodes.insert (n.nodeId sha256) _)[k]? = _
  rw [NodeTable.lookup_insert]
  simp only [eq_comm (a := k)]

/-! ## Seed nodes that all arrive -/

/-- No two different nodes of the list share a name or a node id. -/
def DistinctSeeds (sha256 : String → String) (nodes : List NodeInfo) : Prop :=
  Set.InjOn NodeInfo.name {n | n ∈ nodes} ∧ Set.InjOn (NodeInfo.nodeId sha256) {n | n ∈ nodes}

/-- Whatever order the hash map yields the seed nodes in, every listed node is in the table of a configured
    network under its node id, and the table is the same for every order. -/
def KeepsSeeds (sha256 : String → String) (nodes : List NodeInfo) (c : Configuration) : Prop :=
  ∀ network : Network,
    (∀ order, order.Perm c.seedValues → ∀ n ∈ nodes,
      ∃ nodeRef, (network.configureWith sha256 order).nodes[n.nodeId sha256]? = some nodeRef ∧
        nodeRef.info = some n) ∧
    ∀ order order', order.Perm c.seedValues → order'.Perm c.seedValues →
      (network.configureWith sha256 order).nodes = (network.configureWith sha256 order').nodes

/-- What is asked of loading a configuration: an accepted one keeps its seed nodes, and a list whose nodes
    cannot all be kept is refused. -/
def LoadKeepsSeeds (crates : Crates ν) (sha256 : String → String) (host : String)
    (config : Layer String ν) : Prop :=
  ∀ schema, crates.tryInto config = .ok schema →
    (∀ c, Configuration.loadFromConfig crates host config = .ok (.ok c) →
      KeepsSeeds sha256 schema.nodes c) ∧
    (¬ DistinctSeeds sha256 schema.nodes →
      ∃ err, Configuration.loadFromConfig crates host config = .ok (.error err))

/-- An accepted configuration has the listed nodes, collected by name. -/
theorem Configuration.loadFromConfig_eq_ok {crates : Crates ν} {host : String}
    {config : Layer String ν} {schema : ConfigSchema} (hschema : crates.tryInto config = .ok schema)
    {r : Except ConfigurationError Configuration}
    (hload : Configuration.loadFromConfig crates host config = .ok r) :
    ∃ c, r = .ok c ∧ c.host = host ∧ c.seedNodes = Configuration.collectSeedNodes schema.nodes := by
  simp only [Configuration.loadFromConfig, hschema] at hload
  obtain ⟨c, hc, hr⟩ := bind_eq_ok.1 hload
  obtain ⟨_, _, -, -, rfl⟩ := Configuration.ofSchema_eq_ok hc
  exact ⟨_, (Except.ok.inj hr).symm, rfl, rfl⟩

section Kept

variable {sha256 : String → String} {nodes : List NodeInfo} {c : Configuration}

theorem DistinctSeeds.keepsSeeds (hdistinct : DistinctSeeds sha256 nodes)
    (hc : c.seedNodes = Configuration.collectSeedNodes nodes) : KeepsSeeds sha256 nodes c := by
  -- no node is lost among the names, so every order lists exactly the given nodes
  have hmem : ∀ order : List NodeInfo, order.Perm c.seedValues → ∀ n, n ∈ order ↔ n ∈ nodes := by
    intro order hperm n
    rw [hperm.mem_iff, Configuration.mem_seedValues hc]
    constructor
    · intro hfound
      exact (mem_of_lookup hfound).1
    · intro hn
      exact lookup_of_injOn hdistinct.1 hn
  have hinj : ∀ order : List NodeInfo, order.Perm c.seedValues →
      Set.InjOn (NodeInfo.nodeId sha256) {n | n ∈ order} := by
    intro order hperm a ha b hb hid
    exact hdistinct.2 ((hmem order hperm a).1 ha) ((hmem order hperm b).1 hb) hid
  intro network
  constructor
  · intro order hperm n hn
    rw [Network.configureWith_lookup, lookup_of_injOn (hinj order hperm) ((hmem order hperm n).2 hn)]
    exact ⟨_, rfl, rfl⟩
  · intro order order' hperm hperm'
    apply Std.ExtTreeMap.ext_getElem?
    intro k
    rw [Network.configureWith_lookup, Network.configureWith_lookup,
      lookup_perm (hinj order hperm) (hperm.trans hperm'.symm)]

/-- A listed node that arrives was yielded by the hash map: the table of a new network with another info does
    not have it. -/
theorem KeepsSeeds.mem_seedValues (hkeeps : KeepsSeeds sha256 nodes c) {n : NodeInfo} (hn : n ∈ nodes) :
    n ∈ c.seedValues := by
  let own : NodeInfo := { n with name := n.name ++ "_" }
  have hown : own ≠ n := by
    intro heq
    have hlength := congrArg (fun info => info.name.length) heq
    simp [own] at hlength
  obtain ⟨nodeRef, hlookup, hinfo⟩ :=
    (hkeeps (Network.new 0 0 own (Ring.new 0))).1 c.seedValues (List.Perm.refl _) n hn
  rw [Network.configureWith_lookup] at hlookup
  cases hfound : lookup (NodeInfo.nodeId sha256) c.seedValues (n.nodeId sha256) with
  | some n' =>
      rw [hfound] at hlookup
      obtain rfl := Option.some.inj hlookup
      obtain rfl := Option.some.inj hinfo
      exact (mem_of_lookup hfound).1
  | none =>
      rw [hfound] at hlookup
      simp only [Option.map_none, Option.none_or, Network.new, NodeTable.lookup_insert] at hlookup
      split at hlookup
      · obtain rfl := Option.some.inj hlookup
        exact absurd (Option.some.inj hinfo) hown
      · simp at hlookup

theorem KeepsSeeds.distinctSeeds (hkeeps : KeepsSeeds sha256 nodes c)
    (hc : c.seedNodes = Configuration.collectSeedNodes nodes) : DistinctSeeds sha256 nodes := by
  constructor
  · -- the hash map yields every node, so none was lost among the names
    rw [← forall_lookup_iff]
    intro n hn
    exact (Configuration.mem_seedValues hc n).1 (hkeeps.mem_seedValues hn)
  · intro a ha b hb hid
    have hkept := (hkeeps (Network.new 0 0 a (Ring.new 0))).1 c.seedValues (List.Perm.refl _)
    obtain ⟨nodeRef, hlookup, hinfo⟩ := hkept a ha
    obtain ⟨nodeRef', hlookup', hinfo'⟩ := hkept b hb
    rw [hid, hlookup'] at hlookup
    obtain rfl := Option.some.inj hlookup
    exact Option.some.inj (hinfo.symm.trans hinfo')

theorem keepsSeeds_iff (hc : c.seedNodes = Configuration.collectSeedNodes nodes) :
    KeepsSeeds sha256 nodes c ↔ DistinctSeeds sha256 nodes :=
  ⟨fun hkeeps => hkeeps.distinctSeeds hc, fun hdistinct => hdistinct.keepsSeeds hc⟩

end Kept

/-- **When no seed node is lost.** Loading treats a list of nodes as it should, and an accepted configuration
    keeps its seed nodes, exactly when no two different nodes share a name or a node id. -/
theorem seedsKept_iff (crates : Crates ν) (sha256 : String → String) (host : String)
    (config : Layer String ν) (schema : ConfigSchema) (hschema : crates.tryInto config = .ok schema) :
    (LoadKeepsSeeds crates sha256 host config ↔ DistinctSeeds sha256 schema.nodes) ∧
      ∀ c, Configuration.loadFromConfig crates host config = .ok (.ok c) →
        (KeepsSeeds sha256 schema.nodes c ↔ DistinctSeeds sha256 schema.nodes) := by
  have hkept : ∀ c, Configuration.loadFromConfig crates host config = .ok (.ok c) →
      (KeepsSeeds sha256 schema.nodes c ↔ DistinctSeeds sha256 schema.nodes) := by
    intro c hload
    obtain ⟨c', hok, -, hseeds⟩ := Configuration.loadFromConfig_eq_ok hschema hload
    obtain rfl := Except.ok.inj hok
    exact keepsSeeds_iff hseeds
  refine ⟨?_, hkept⟩
  constructor
  · intro hload
    by_contra hclash
    -- nothing in `load_from_config` refuses a schema
    obtain ⟨err, herr⟩ := (hload schema hschema).2 hclash
    obtain ⟨c, hok, -⟩ := Configuration.loadFromConfig_eq_ok hschema herr
    cases hok
  · intro hdistinct schema' hschema'
    obtain rfl := Except.ok.inj (hschema.symm.trans hschema')
    exact ⟨fun c hc => (hkept c hc).2 hdistinct, fun hclash => absurd hdistinct hclash⟩

open RaftScaffold.Configuration in
theorem sampleNodes_distinct : DistinctSeeds sampleSha256 sampleNodes :=
  ⟨List.inj_on_of_nodup_map (by decide), List.inj_on_of_nodup_map (by decide +kernel)⟩

open RaftScaffold.Configuration in
/-- Two nodes of `config/application.toml` are kept. -/
theorem seedsKept_application :
    LoadKeepsSeeds (sampleCrates (sampleSchema sampleNodes)) sampleSha256 "node_a" (fun _ => none) :=
  (seedsKept_iff (sampleCrates (sampleSchema sampleNodes)) sampleSha256 "node_a" (fun _ => none)
    (sampleSchema sampleNodes) rfl).1.2 sampleNodes_distinct

open RaftScaffold.Configuration in
/-- A configuration whose two nodes have one name is accepted, and one of them is lost. -/
theorem seedsKept_fails :
    ∃ (crates : Crates Int64) (host : String) (config : Layer String Int64) (schema : ConfigSchema)
      (c : Configuration), crates.tryInto config = .ok schema ∧
        loadFromConfig crates host config = .ok (.ok c) ∧ ¬ KeepsSeeds sampleSha256 schema.nodes c ∧
        ¬ LoadKeepsSeeds crates sampleSha256 host config := by
  let a := sampleNode "node_a" 0
  let b := sampleNode "node_a" 1
  let schema := sampleSchema [a, b]
  have hschema : (sampleCrates schema).tryInto (fun _ => none) = .ok schema := rfl
  have hload : loadFromConfig (sampleCrates schema) "node_a" (fun _ => none) =
      .ok (.ok { sampleConfiguration [a, b] with host := "node_a" }) := by
    simp only [loadFromConfig, hschema, schema, ofSchema_sampleSchema, bind, Except.bind]
  have hlost : ¬ KeepsSeeds sampleSha256 schema.nodes { sampleConfiguration [a, b] with host := "node_a" } := by
    intro hkeeps
    have hdistinct := hkeeps.distinctSeeds rfl
    have heq : a = b := hdistinct.1 (List.mem_cons_self) (List.mem_cons_of_mem _ List.mem_cons_self) rfl
    exact absurd heq (by decide)
  exact ⟨_, _, _, _, _, hschema, hload, hlost, fun h => hlost ((h schema hschema).1 _ hload)⟩

end RaftScaffold
