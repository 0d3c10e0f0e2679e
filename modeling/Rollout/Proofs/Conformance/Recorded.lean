import Mathlib.Logic.Relation
import Rollout.Proofs.Json.Documents
import Rollout.Proofs.Conformance.Verdict
import Rollout.Proofs.Model.Shapes

/-!
The record of a server configuration in an annotation. How a text spells the configuration shows in
no verdict. A text that is neither an object nor `null` is no configuration, unless it is an array
of what the first fields are given.
-/
namespace Rollout

/-- A text for a configuration, and the same configuration written differently. Space and escapes
are no part of the document that a text spells, so texts that differ in nothing else are among
these. -/
def Respelled (text text' : String) : Prop :=
  ∃ j j', Json.Spells text j ∧ Json.Spells text' j' ∧
    Relation.EqvGen ServerConfig.shape.Rewrites j j'

/-- The text is an array of what the first fields of a configuration are given, each at its
place. -/
def ListsFields (text : String) (c : ServerConfig) : Prop :=
  ∃ items, Json.Spells text (.arr items) ∧ items.length ≤ ServerConfig.record.names.length ∧
    ServerConfig.codec.decode (.object (ServerConfig.record.names.zip items)) = some c

theorem Json.Spells.not_object {text : String} {j : Json} (h : Spells text j) (hnull : j ≠ .null)
    (hobject : ∀ members, j ≠ .obj members) :
    ¬∃ j, Spells text j ∧ (j = .null ∨ ∃ members, j = .obj members) := by
  rintro ⟨k, hk, hkind⟩
  obtain rfl := hk.unique h
  rcases hkind with hkind | ⟨members, hkind⟩
  · exact hnull hkind
  · exact hobject members hkind

namespace RecordedConfig
variable {text text' : String} {c : ServerConfig} {j : Json}

theorem ofText_of_spells (h : Json.Spells text j) :
    ofText text = ((ServerConfig.codec.optional.decode j).map (·.getD {})).elim corrupted
      present := by
  unfold ofText Codec.ofText?
  rw [Json.ofText?_eq_some_iff.2 h, Option.bind_some]
  cases ServerConfig.codec.optional.decode j <;> rfl

theorem ofText_of_not_spells (h : ∀ j, ¬Json.Spells text j) : ofText text = corrupted := by
  have hnone : Json.ofText? text = none := by
    rw [Option.eq_none_iff_forall_ne_some]
    intro j hj
    exact h j (Json.ofText?_eq_some_iff.1 hj)
  unfold ofText Codec.ofText?
  rw [hnone]
  rfl

theorem existsUnique_of_present (h : ofText text = present c) : ∃! j, Json.Spells text j := by
  by_cases hspells : ∃ j, Json.Spells text j
  · obtain ⟨j, hj⟩ := hspells
    exact ⟨j, hj, fun k hk => hk.unique hj⟩
  · rw [ofText_of_not_spells (not_exists.1 hspells)] at h
    exact nomatch h

theorem ofText_eq_of_respelled (h : Respelled text text') : ofText text' = ofText text := by
  obtain ⟨j, j', hj, hj', hchanges⟩ := h
  have hdecode : ServerConfig.codec.optional.decode j = ServerConfig.codec.optional.decode j' :=
    (Codec.HasShape.optional ServerConfig.hasShape).decode_eq_of_eqvGen
      (Relation.EqvGen.mono (fun _ _ => .optional) _ _ hchanges)
  rw [ofText_of_spells hj, ofText_of_spells hj', hdecode]

theorem ofText_of_arr {items : List Json} (h : Json.Spells text (.arr items)) :
    ofText text = (ServerConfig.codec.decode (.arr items)).elim corrupted present := by
  rw [ofText_of_spells h]
  show (((ServerConfig.codec.decode (.arr items)).map some).map (·.getD {})).elim
    corrupted present = _
  cases ServerConfig.codec.decode (.arr items) <;> rfl

theorem decode_arr_of_length {items : List Json}
    (h : items.length ≤ ServerConfig.record.names.length) :
    ServerConfig.codec.decode (.arr items) =
      ServerConfig.codec.decode (.object (ServerConfig.record.names.zip items)) :=
  ServerConfig.record_hasShape.decode_arr (by decide) h

theorem ofText_of_listsFields (h : ListsFields text c) : ofText text = present c := by
  obtain ⟨items, hspells, hlength, hdecode⟩ := h
  rw [ofText_of_arr hspells, decode_arr_of_length hlength, hdecode]
  rfl

theorem ofText_of_not_listsFields
    (htext : ¬∃ j, Json.Spells text j ∧ (j = .null ∨ ∃ members, j = .obj members))
    (h : ∀ c, ¬ListsFields text c) : ofText text = corrupted := by
  by_cases hspells : ∃ j, Json.Spells text j
  · obtain ⟨j, hj⟩ := hspells
    cases j with
    | null => exact absurd ⟨_, hj, .inl rfl⟩ htext
    | obj members => exact absurd ⟨_, hj, .inr ⟨members, rfl⟩⟩ htext
    | arr items =>
      rw [ofText_of_arr hj]
      cases hdecode : ServerConfig.codec.decode (.arr items) with
      | none => rfl
      | some c =>
        -- what is longer than the record is not even looked at
        obtain ⟨_, hfields, -⟩ := Option.bind_eq_some_iff.1 hdecode
        obtain ⟨hlength, -⟩ := Option.ite_none_right_eq_some.1 hfields
        exact absurd ⟨items, hj, hlength, decode_arr_of_length hlength ▸ hdecode⟩ (h c)
    | _ => exact ofText_of_spells hj
  · exact ofText_of_not_spells (not_exists.1 hspells)

end RecordedConfig

namespace Machine

def recording (text : String) : Machine where
  metadata := { annotations := some ((∅ : Dict String).insert serverConfigAnnotation text) }
  spec := {}

def sampleRecord : String := "\x7b\"cni\":\"own\",\"etcd\":\x7b\x7d\x7d"

def sampleRespelled : String :=
  " \x7b\"etcd\":\x7b\"exposeMetrics\":false\x7d,\"x\":[1],\"\\u0063ni\": \"own\",\"pauseImage\":null\x7d"

def sampleCni : Option String × Json := (some "cni", .text "own")

def sampleEtcd (members : List (Option String × Json)) : Option String × Json :=
  (some "etcd", .obj members)

def sampleMetrics : Option String × Json := (some "exposeMetrics", .bool false)

def sampleUnknown : Option String × Json := (some "x", .arr [.int 1])

def samplePause : Option String × Json := (some "pauseImage", .null)

theorem spells_sampleRecord : Json.Spells sampleRecord (.obj [sampleCni, sampleEtcd []]) :=
  Json.spells_of_any_toText rfl (by decide +kernel)

theorem spells_sampleRespelled :
    Json.Spells sampleRespelled
      (.obj [sampleEtcd [sampleMetrics], sampleUnknown, sampleCni, samplePause]) :=
  Json.spells_of_any_toText rfl (by decide +kernel)

theorem respelled_sample : Respelled sampleRecord sampleRespelled := by
  have hmetrics : ServerConfig.shape.Rewrites (.obj [sampleCni, sampleEtcd []])
      (.obj [sampleCni, sampleEtcd [sampleMetrics]]) :=
    @Shape.Rewrites.member _ [sampleCni] [] "etcd" (.optional EtcdConfig.shape) _ _
      (by simp [ServerConfig.fields])
      (.optional (@Shape.Rewrites.absent _ [] [] "exposeMetrics" .flag _ (by simp) (by simp) rfl))
  have hswap : ServerConfig.shape.Rewrites (.obj [sampleCni, sampleEtcd [sampleMetrics]])
      (.obj [sampleEtcd [sampleMetrics], sampleCni]) :=
    .permute (.swap ..) (by decide)
  have hunknown : ServerConfig.shape.Rewrites (.obj [sampleEtcd [sampleMetrics], sampleCni])
      (.obj [sampleEtcd [sampleMetrics], sampleUnknown, sampleCni]) :=
    @Shape.Rewrites.unknown _ [sampleEtcd [sampleMetrics]] [sampleCni] "x" _ (by decide)
  have hpause :
      ServerConfig.shape.Rewrites (.obj [sampleEtcd [sampleMetrics], sampleUnknown, sampleCni])
      (.obj [sampleEtcd [sampleMetrics], sampleUnknown, sampleCni, samplePause]) :=
    @Shape.Rewrites.absent _ [sampleEtcd [sampleMetrics], sampleUnknown, sampleCni] [] "pauseImage"
      (.optional .text) _
      (by simp [ServerConfig.fields]) (by decide) rfl
  exact ⟨_, _, spells_sampleRecord, spells_sampleRespelled, .trans _ _ _ (.rel _ _ hmetrics)
    (.trans _ _ _ (.rel _ _ hswap) (.trans _ _ _ (.rel _ _ hunknown) (.rel _ _ hpause)))⟩

/-- A text that can be read as a configuration spells one document, and no change of the spelling,
or of the document where it does not count, makes a difference to what is read or to the verdict on
a machine. -/
theorem hasServerConfig_of_respelled {text : String} {c : ServerConfig}
    (h : RecordedConfig.ofText text = .present c) : (∃! j, Json.Spells text j) ∧
      ∀ text', Respelled text text' →
        RecordedConfig.ofText text' = .present c ∧
          ∀ m m' : Machine, m.metadata.annotation? serverConfigAnnotation = some text →
            m'.metadata.annotation? serverConfigAnnotation = some text' →
            ∀ desired, m'.hasServerConfig desired = m.hasServerConfig desired := by
  refine ⟨RecordedConfig.existsUnique_of_present h, ?_⟩
  intro text' hrespelled
  have htext : RecordedConfig.ofText text' = RecordedConfig.ofText text :=
    RecordedConfig.ofText_eq_of_respelled hrespelled
  refine ⟨htext.trans h, ?_⟩
  intro m m' hm hm' desired
  rw [hasServerConfig_eq hm, hasServerConfig_eq hm', htext]

theorem hasServerConfig_of_respelled_sample :
    RecordedConfig.ofText sampleRespelled = .present { cni := some "own", etcd := some {} } ∧
      (recording sampleRespelled).hasServerConfig {} =
        (recording sampleRecord).hasServerConfig {} := by
  have hpresent : RecordedConfig.ofText sampleRecord =
      .present { cni := some "own", etcd := some {} } := by decide +kernel
  obtain ⟨htext, hverdict⟩ :=
    (hasServerConfig_of_respelled hpresent).2 sampleRespelled respelled_sample
  exact ⟨htext, hverdict (recording sampleRecord) (recording sampleRespelled) rfl rfl {}⟩

/-- The verdict on a machine whose record is neither an object nor `null`. It is no record of a
configuration exactly if it is no array of what the first fields are given, and otherwise the record
of what is given there. -/
theorem ofMachine_corrupted_iff_of_not_object {m : Machine} {text : String}
    (hm : m.metadata.annotation? serverConfigAnnotation = some text)
    (htext : ¬∃ j, Json.Spells text j ∧ (j = .null ∨ ∃ members, j = .obj members)) :
    ((RecordedConfig.ofMachine m = .corrupted ∧
      ∀ desired, m.hasServerConfig desired = false) ↔ ∀ c, ¬ListsFields text c) ∧
      ∀ c, ListsFields text c →
        RecordedConfig.ofMachine m = .present c ∧
        ∀ desired, (m.hasServerConfig desired = true ↔ desired = c) := by
  rw [RecordedConfig.ofMachine_eq hm]
  refine ⟨⟨?_, ?_⟩, ?_⟩
  · rintro ⟨hcorrupted, -⟩ c hc
    exact nomatch hcorrupted.symm.trans (RecordedConfig.ofText_of_listsFields hc)
  · intro h
    have hcorrupted : RecordedConfig.ofText text = .corrupted :=
      RecordedConfig.ofText_of_not_listsFields htext h
    refine ⟨hcorrupted, ?_⟩
    intro desired
    rw [hasServerConfig_eq hm, hcorrupted]
    rfl
  · intro c hc
    have hpresent : RecordedConfig.ofText text = .present c :=
      RecordedConfig.ofText_of_listsFields hc
    refine ⟨hpresent, ?_⟩
    intro desired
    rw [hasServerConfig_eq hm, hpresent]
    exact beq_iff_eq.trans eq_comm

theorem ofMachine_corrupted_iff_of_not_object_listed :
    RecordedConfig.ofMachine (recording "[null, \"\", \"calico\"]") =
        .present { bindAddress := some "", cni := some "calico" } ∧
      (recording "[null, \"\", \"calico\"]").hasServerConfig
        { bindAddress := some "", cni := some "calico" } = true ∧
      RecordedConfig.ofMachine (recording "42") = .corrupted ∧
      (recording "42").hasServerConfig {} = false := by
  have harray : Json.Spells "[null, \"\", \"calico\"]" (.arr [.null, .text "", .text "calico"]) :=
    Json.spells_of_any_toText rfl (by decide +kernel)
  have hnumber : Json.Spells "42" (.int 42) := Json.spells_of_any_toText rfl (by decide +kernel)
  have hlists :
      ListsFields "[null, \"\", \"calico\"]" { bindAddress := some "", cni := some "calico" } :=
    ⟨_, harray, by decide, by decide +kernel⟩
  have hnone : ∀ c, ¬ListsFields "42" c :=
    fun c ⟨items, hitems, _⟩ => nomatch hitems.unique hnumber
  have hpresent :=
    (@ofMachine_corrupted_iff_of_not_object (recording _) _ rfl (harray.not_object nofun nofun)).2
  have hcorrupted :=
    (@ofMachine_corrupted_iff_of_not_object (recording _) _ rfl (hnumber.not_object nofun nofun)).1
  exact ⟨(hpresent _ hlists).1, ((hpresent _ hlists).2 _).2 rfl, (hcorrupted.2 hnone).1,
    (hcorrupted.2 hnone).2 {}⟩

/-- The empty array is no object, and passes for the empty configuration. -/
theorem not_corrupted_empty_array :
    (¬∃ j, Json.Spells "[]" j ∧ (j = .null ∨ ∃ members, j = .obj members)) ∧
      RecordedConfig.ofMachine (recording "[]") = .present {} ∧
      (recording "[]").hasServerConfig {} = true := by
  have harray : Json.Spells "[]" (.arr []) := Json.spells_of_any_toText rfl (by decide +kernel)
  exact ⟨harray.not_object nofun nofun, by decide +kernel, by decide +kernel⟩

end Machine
end Rollout
