import Linkage.Command.Execution
import Linkage.Proofs.Actions
import Linkage.Proofs.Groups
import Linkage.Proofs.Json.RoundTrip
/-!
Documents that the program writes. What is written of findings, graphs, indexes and reports tells them
apart. Every answer to a query is free of fractions and has each key of an object once, so it is read
back from what is printed, and from the file that it is delivered to.
-/

namespace Linkage

open Function (Injective)
open Json (Plain)

variable {host after : Host} {json : Json}

/-! ### Parts of answers -/

theorem Json.plain_ofStrings (texts : List String) : Plain (.ofStrings texts) := by
  simp [Json.ofStrings]

theorem Assoc.keys_map_snd {α β : Type} (entries : List (String × α)) (change : α → β) :
    keys (entries.map (fun (key, value) => (key, change value))) = keys entries := by
  simp [keys, Function.comp_def]

theorem Json.plain_dictionary {α : Type} {entries : List (String × α)} {write : α → Json}
    (distinct : (Assoc.keys entries).Nodup) (plain : ∀ value, (write value).Plain) :
    Plain (.object (entries.map (fun (key, value) => (key, write value)))) := by
  refine .object ?_ ?_
  · rwa [Assoc.keys_map_snd]
  · intro field member
    obtain ⟨entry, _, rfl⟩ := List.mem_map.mp member
    exact plain entry.2

theorem Finding.plain_toJson (finding : Finding) : finding.toJson.Plain := by
  have line : ((finding.line.map Json.int).getD .null).Plain := by
    cases finding.line <;> simp
  rw [Finding.toJson]
  cases finding.role <;> simp [Assoc.keys, line]

theorem Finding.plain_listJson (findings : List Finding) : (Finding.listJson findings).Plain := by
  simp [Finding.listJson, Finding.plain_toJson]

theorem Graph.plain_toJson (graph : Graph) : graph.toJson.Plain := by
  simp [Graph.toJson, Edge.toJson, Json.plain_ofStrings, Assoc.keys]

namespace Report

theorem plain_cyclesJson (cycles : List (List String)) : (cyclesJson cycles).Plain := by
  simp [cyclesJson, Json.plain_ofStrings]

theorem nodup_byCertainty (report : Report) : (Assoc.keys report.byCertainty).Nodup := by
  have counted : ∀ (findings : List Finding) (counts : List (String × Int)),
      (Assoc.keys counts).Nodup → (Assoc.keys (findings.foldl count counts)).Nodup := by
    intro findings
    induction findings with
    | nil => exact fun _ distinct => distinct
    | cons finding findings ih => exact fun _ distinct => ih _ (Assoc.nodup_put distinct)
  exact counted _ _ (by decide)

theorem plain_summary {report : Report} (distinct : (Assoc.keys report.groups).Nodup) :
    report.summary.toJson.Plain := by
  have sizes : (Assoc.keys report.summary.findings).Nodup := by
    rw [summary, Assoc.keys_map_snd]
    exact distinct
  have findings := Json.plain_dictionary sizes (fun size : Nat => Json.plain_int size)
  have grades := Json.plain_dictionary report.nodup_byCertainty Json.plain_int
  refine .object (by simp [Assoc.keys]) ?_
  simp only [List.forall_mem_cons]
  exact ⟨.int _, .int _, .int _, findings, grades, by simp⟩

theorem plain_toJson {report : Report} (distinct : (Assoc.keys report.groups).Nodup) :
    report.toJson.Plain := by
  have groups := Json.plain_dictionary distinct Finding.plain_listJson
  refine .object (by simp [Assoc.keys]) ?_
  simp only [List.forall_mem_cons]
  exact ⟨plain_summary distinct, groups, plain_cyclesJson _, Graph.plain_toJson _, by simp⟩

end Report

/-! ### What documents tell -/

theorem Json.orNull_injective :
    Injective (fun value : Option Int => (value.map Json.int).getD .null) := by
  intro value other same
  cases value <;> cases other <;> simp_all

theorem Json.ofStrings_injective : Injective Json.ofStrings := by
  intro texts others same
  exact List.map_injective_iff.mpr (fun _ _ => Json.string.inj) (Json.array.inj same)

theorem Json.dictionary_injective {α : Type} {write : α → Json} (injective : Injective write) :
    Injective (fun entries : List (String × α) =>
      Json.object (entries.map (fun (key, value) => (key, write value)))) := by
  intro entries others same
  exact List.map_injective_iff.mpr (Function.injective_id.prodMap injective) (Json.object.inj same)

theorem Finding.toJson_injective : Injective Finding.toJson := by
  rintro ⟨file, name, line, kind, certainty, role⟩ ⟨file', name', line', kind', certainty', role'⟩ same
  simp only [toJson, Json.object.injEq, List.cons_append, List.nil_append, List.cons.injEq,
    Prod.mk.injEq, true_and, Json.string.injEq] at same
  obtain ⟨rfl, rfl, lines, rfl, rfl, roles⟩ := same
  obtain rfl := Json.orNull_injective lines
  obtain rfl : role = role' := by
    cases role <;> cases role' <;> simp_all
  rfl

theorem Finding.listJson_injective : Injective Finding.listJson := by
  intro findings others same
  exact List.map_injective_iff.mpr toJson_injective (Json.array.inj same)

theorem Edge.toJson_injective : Injective Edge.toJson := by
  rintro ⟨source, target⟩ ⟨source', target'⟩ same
  simpa [toJson] using same

theorem Graph.toJson_injective : Injective Graph.toJson := by
  rintro ⟨nodes, edges⟩ ⟨nodes', edges'⟩ same
  simp only [toJson, Json.object.injEq, List.cons.injEq, Prod.mk.injEq, true_and, and_true,
    Json.array.injEq] at same
  obtain ⟨listed, joined⟩ := same
  obtain rfl := Json.ofStrings_injective listed
  obtain rfl := List.map_injective_iff.mpr Edge.toJson_injective joined
  rfl

theorem UsageIndex.toJson_injective : Injective UsageIndex.toJson := by
  rintro ⟨bySymbol, byFile, exports⟩ ⟨bySymbol', byFile', exports'⟩ same
  simp only [toJson, Json.object.injEq, List.cons.injEq, Prod.mk.injEq, true_and, and_true] at same
  have tables := Json.dictionary_injective Json.ofStrings_injective
  obtain ⟨symbols, files, names⟩ := same
  obtain rfl := tables symbols
  obtain rfl := tables files
  obtain rfl := tables names
  rfl

namespace Report

theorem Summary.toJson_injective : Injective Summary.toJson := by
  rintro ⟨files, edges, cycles, findings, grades⟩ ⟨files', edges', cycles', findings', grades'⟩ same
  simp only [toJson, Json.object.injEq, List.cons.injEq, Prod.mk.injEq, true_and, and_true,
    Json.int.injEq, Int.natCast_inj] at same
  obtain ⟨rfl, rfl, rfl, sizes, counts⟩ := same
  have natural : Injective (fun size : Nat => Json.int size) :=
    fun _ _ equal => Int.ofNat.inj (Json.int.inj equal)
  obtain rfl := Json.dictionary_injective natural (congrArg Json.object sizes)
  obtain rfl := Json.dictionary_injective (fun _ _ => Json.int.inj) (congrArg Json.object counts)
  rfl

theorem cyclesJson_injective : Injective cyclesJson := by
  intro cycles others same
  exact List.map_injective_iff.mpr Json.ofStrings_injective (Json.array.inj same)

theorem toJson_injective : Injective Report.toJson := by
  rintro ⟨groups, cycles, graph⟩ ⟨groups', cycles', graph'⟩ same
  simp only [toJson, Json.object.injEq, List.cons.injEq, Prod.mk.injEq, true_and, and_true] at same
  obtain ⟨_, findings, loops, graphs⟩ := same
  obtain rfl := Json.dictionary_injective Finding.listJson_injective (congrArg Json.object findings)
  obtain rfl := cyclesJson_injective loops
  obtain rfl := Graph.toJson_injective graphs
  rfl

/-- Reports that are written alike are alike. -/
theorem eq_of_render_eq {report other : Report} (distinct : (Assoc.keys report.groups).Nodup)
    (also : (Assoc.keys other.groups).Nodup)
    (same : report.toJson.render = other.toJson.render) : report = other :=
  toJson_injective ((plain_toJson distinct).eq_of_render_eq (plain_toJson also) same)

end Report

/-! ### Queries -/

/-- The report of an analysis can be written. -/
theorem Analysis.plain_report {map : RepoMap} {settings : Settings} {selection : Selection}
    {report : Report} (succeeds : (analyze map settings selection).run.value = .ok report) :
    report.toJson.Plain := by
  obtain ⟨analyzers, _, rfl⟩ := compiled_of_analyze succeeds
  exact Report.plain_toJson (Report.nodup_groups map settings analyzers)

theorem Question.plain_answerOn (map : RepoMap) (settings : Settings) (question : Question) :
    (question.answerOn map settings).value.Plain := by
  cases question with
  | graph => exact Graph.plain_toJson _
  | cycles => exact Report.plain_cyclesJson _
  | unused => exact Finding.plain_listJson _
  | orphans => exact Finding.plain_listJson _
  | usages file name => exact Json.plain_ofStrings _
  | dependents file => exact Json.plain_ofStrings _

theorem Project.plain_report {map : String} {settings : Option String} {report : Report}
    (reported : (Project.report map settings).on host = (.ok report, after)) : report.toJson.Plain := by
  obtain ⟨_, _, _, reported⟩ := Action.ok_of_on_bind reported
  obtain ⟨loaded, _, _, reported⟩ := Action.ok_of_on_bind reported
  obtain ⟨started, _, _, reported⟩ := Action.ok_of_on_bind reported
  obtain ⟨outcome, _, ran, reported⟩ := Action.ok_of_on_bind reported
  obtain rfl := Except.ok.inj (congrArg Prod.fst ran)
  rw [Action.on_ofExcept] at reported
  cases succeeds : (Analysis.analyze loaded.1 loaded.2 (.discovered started.plugins)).run.value with
  | error fault =>
    rw [succeeds] at reported
    cases reported
  | ok found =>
    rw [succeeds] at reported
    obtain rfl := Except.ok.inj (congrArg Prod.fst reported)
    exact Analysis.plain_report succeeds

/-- Every answer can be written. -/
theorem Query.plain_answer {query : Query} {map : String} {settings : Option String}
    (answered : (query.answer map settings).on host = (.ok json, after)) : json.Plain := by
  cases query with
  | report =>
    obtain ⟨report, between, reported, done⟩ := Action.ok_of_on_bind answered
    obtain rfl := Except.ok.inj (congrArg Prod.fst done)
    exact Project.plain_report reported
  | about question =>
    obtain ⟨loaded, between, _, done⟩ := Action.ok_of_on_bind answered
    obtain rfl := Except.ok.inj (congrArg Prod.fst done)
    exact question.plain_answerOn ..

/-! ### Files -/

theorem Command.read_written {location : Location} {text : String}
    (written : (writeResult location text).on host = (.ok (), after)) :
    after.tree.read after.current location = .ok (.text text) := by
  unfold writeResult at written
  dsimp only at written
  by_cases above : location.parent.hasNull = true
  · rw [if_pos above] at written
    cases written
  · rw [if_neg above] at written
    obtain ⟨_, _, got, written⟩ := Action.ok_of_on_bind written
    obtain ⟨same, rfl⟩ := Prod.mk.inj got
    obtain rfl := Except.ok.inj same
    obtain ⟨tree, _, ensured, written⟩ := Action.ok_of_on_bind written
    obtain ⟨_, rfl⟩ := Action.ok_of_ofExcept ensured
    obtain ⟨_, _, _, written⟩ := Action.ok_of_on_bind written
    by_cases null : location.hasNull = true
    · rw [if_pos null] at written
      cases written
    · rw [if_neg null] at written
      obtain ⟨changed, _, put, written⟩ := Action.ok_of_on_bind written
      obtain ⟨stored, _⟩ := Action.ok_of_ofExcept put
      obtain rfl := (Prod.mk.inj written).2
      exact FileTree.read_write stored

/-- A document that was delivered to a file stands there, with a line end after it. -/
theorem Command.read_delivered {output message : String}
    (delivered : (deliver (some output) json).on host = (.ok message, after)) :
    after.tree.read after.current (.ofText output) = .ok (.text (json.render ++ "\n")) := by
  obtain ⟨_, _, written, done⟩ := Action.ok_of_on_bind delivered
  obtain rfl := (Prod.mk.inj done).2
  exact read_written written

/-- A written document has ASCII characters only and is read back by every reader that can take it, so
different documents are written differently. What a query answers is such a document, and it is read
back from the file it is delivered to. -/
theorem documents_read_back :
    (∀ json : Json, json.Plain →
      (∀ c ∈ json.render.toList, c.toNat < 128) ∧
        Json.parse {} json.render = .ok json ∧
        ∀ limits, Json.parse limits json.render = .ok json ↔ json.Within limits 0) ∧
      (∀ json other : Json, json.Plain → other.Plain → json.render = other.render → json = other) ∧
      (∀ (query : Query) (map : String) (settings : Option String) (host after : Host) (json : Json),
        (query.answer map settings).on host = (.ok json, after) → json.Plain) ∧
      ∀ (output message : String) (host after : Host) (json : Json), json.Plain →
        (Command.deliver (some output) json).on host = (.ok message, after) →
          ∃ text, after.tree.read after.current (.ofText output) = .ok (.text text) ∧
            Text.unixLines text.toList = text.toList ∧ Json.parse {} text = .ok json := by
  refine ⟨?_, fun _ _ plain also => plain.eq_of_render_eq also, ?_, ?_⟩
  · intro json plain
    exact ⟨fun c member => (plain.ascii_render c member).2, plain.parse_render (plain.within_none 0),
      fun _ => plain.parse_render_iff⟩
  · intro query map settings host after json
    exact Query.plain_answer
  · intro output message host after json plain delivered
    refine ⟨_, Command.read_delivered delivered, Text.unixLines_eq ?_, ?_⟩
    · simpa using plain.returnless
    · exact plain.parse_render_append (plain.within_none 0) (List.all_eq_true.mp rfl)

def sampleDocument : Json :=
  .object [("é\n", .array [.int (-20), .object [], .bool true]), ("", .string "\"😀\x7f\\"),
    ("a", .array [.array [.null], .array []])]

theorem documents_read_back_sample :
    sampleDocument.Plain ∧ Json.parse .usual sampleDocument.render = .ok sampleDocument ∧
      (∃ after, (Command.deliver (some "out/a.json") sampleDocument).on {} =
          (.ok "Report written to out/a.json\n", after) ∧
        ∃ text, after.tree.read after.current (.ofText "out/a.json") = .ok (.text text) ∧
          Json.parse {} text = .ok sampleDocument) ∧
      ∃ answer after, ((Query.about .cycles).answer "/map" none).on Analysis.blankHost = (.ok answer, after) ∧
        answer.Plain ∧ (sampleDocument.render = answer.render → sampleDocument = answer) := by
  have plain : sampleDocument.Plain := by
    simp [sampleDocument, Assoc.keys]
  have within : sampleDocument.Within .usual 0 := by
    simp [sampleDocument, Json.exceeds, Json.Limits.usual, Json.digitCount]
    decide
  obtain ⟨reads, distinct, answers, delivers⟩ := documents_read_back
  have answered : ((Query.about .cycles).answer "/map" none).on Analysis.blankHost =
      (.ok (.array []), Analysis.blankHost) := rfl
  have told : ((Command.deliver (some "out/a.json") sampleDocument).on {}).1 =
      .ok "Report written to out/a.json\n" := by decide +kernel
  obtain ⟨text, stands, _, read⟩ := delivers _ _ _ _ _ plain (Prod.ext told rfl)
  have listed := answers _ _ _ _ _ _ answered
  exact ⟨plain, ((reads _ plain).2.2 .usual).mpr within, ⟨_, Prod.ext told rfl, text, stands, read⟩,
    _, _, answered, listed, distinct _ _ plain listed⟩

end Linkage
