import RemoteClient.Service.File
import RemoteClient.Proofs.Files.Writing
import RemoteClient.Proofs.Json.Printing

namespace RemoteClient

namespace Json

theorem sources_map {α : Type} (toJson : α → Json) (xs : List α) :
    sources (xs.map toJson) = xs.map fun x => (toJson x).source := by
  induction xs with
  | nil => rfl
  | cons x xs ih => simp only [List.map_cons, sources, ih]

theorem readableItems_map {α : Type} {toJson : α → Json} {xs : List α}
    (readable : ∀ x ∈ xs, (toJson x).Readable) : ReadableItems (xs.map toJson) := by
  induction xs with
  | nil => trivial
  | cons x xs ih =>
      exact ⟨readable x List.mem_cons_self,
        ih fun y member => readable y (List.mem_cons_of_mem x member)⟩

theorem decodeList_map {α : Type} {decode : Source → Decoded α} {shape : α → Source} {xs : List α}
    (each : ∀ x ∈ xs, decode (shape x) = .ok x) :
    Source.decodeList decode (.list (xs.map shape) none) = .ok xs := by
  rw [Source.decodeList]
  induction xs with
  | nil => rfl
  | cons x xs ih =>
      have first := each x List.mem_cons_self
      have others := ih fun y member => each y (List.mem_cons_of_mem x member)
      simp only [List.map_cons, Source.decodeItems, first, others, bind, Except.bind, pure,
        Except.pure]

end Json

namespace Service

theorem Parameter.decode_toJson (p : Parameter) : Parameter.decode p.toJson.source = .ok p := by
  simp [Parameter.decode, Parameter.toJson, Json.source, Json.memberSources,
    Json.Source.decodeRecord, Json.Source.decodeMembers, parameterRecord, Decode.Record.field?,
    Decode.Record.missing?, Json.field, Json.Source.decodeText, Json.Source.closed, bind,
    Except.bind, pure, Except.pure, Except.map]

/-- What is left out stands for the value it had. -/
theorem Operation.decode_toJson (op : Operation) : Operation.decode op.toJson.source = .ok op := by
  have parameters : Json.Source.decodeList Parameter.decode
      (.list (Json.sources (op.parameters.map Parameter.toJson)) none) = .ok op.parameters := by
    rw [Json.sources_map]
    exact Json.decodeList_map fun p _ => p.decode_toJson
  obtain ⟨name, description, params, returnType, emitSync, emitAsync⟩ := op
  cases returnType <;>
    simp [Operation.decode, Operation.toJson, Json.optionalMember, Json.source, Json.memberSources,
      Json.Source.decodeRecord, Json.Source.decodeMembers, operationRecord, Decode.Record.field?,
      Decode.Record.missing?, Json.field, Json.Source.decodeText, Json.Source.decodeBool,
      Json.Source.decodeOption, Json.Source.closed, parameters, bind, Except.bind, pure,
        Except.pure,
      Except.map]

theorem decode_toJson (s : Service) : Service.decode s.toJson.source = .ok s := by
  have operations : Json.Source.decodeList Operation.decode
      (.list (Json.sources (s.operations.map Operation.toJson)) none) = .ok s.operations := by
    rw [Json.sources_map]
    exact Json.decodeList_map fun op _ => op.decode_toJson
  obtain ⟨interfaceName, enclosing, description, ops⟩ := s
  cases enclosing <;>
    simp [Service.decode, Service.toJson, Json.optionalMember, Json.source, Json.memberSources,
      Json.Source.decodeRecord, Json.Source.decodeMembers, record, Decode.Record.field?,
      Decode.Record.missing?, Json.field, Json.Source.decodeText, Json.Source.decodeOption,
      Json.Source.closed, operations, bind, Except.bind, pure, Except.pure, Except.map]

end Service

namespace Catalogue

theorem decode_toJson (c : Catalogue) : Catalogue.decode c.toJson.source = .ok c := by
  have services : Json.Source.decodeList Service.decode
      (.list (Json.sources (c.services.map Service.toJson)) none) = .ok c.services := by
    rw [Json.sources_map]
    exact Json.decodeList_map fun s _ => s.decode_toJson
  simp [Catalogue.decode, Catalogue.toJson, Json.source, Json.memberSources,
    Json.Source.decodeRecord, Json.Source.decodeMembers, record, Decode.Record.field?,
    Decode.Record.missing?, Json.field, Json.Source.decodeText, Json.Source.closed, services, bind,
    Except.bind, pure, Except.pure, Except.map]

theorem toJson_readable (c : Catalogue) : c.toJson.Readable := by
  have parameter (p : Service.Parameter) : p.toJson.Readable := by
    simp [Service.Parameter.toJson, Json.Readable, Json.ReadableMembers]
  have operation (op : Service.Operation) : op.toJson.Readable := by
    have parameters := Json.readableItems_map fun p (_ : p ∈ op.parameters) => parameter p
    cases returns : op.returnType <;>
      simp [Service.Operation.toJson, Json.optionalMember, returns, Json.Readable,
        Json.ReadableMembers, parameters]
  have service (s : Service) : s.toJson.Readable := by
    have operations := Json.readableItems_map fun op (_ : op ∈ s.operations) => operation op
    cases encloses : s.enclosing <;>
      simp [Service.toJson, Json.optionalMember, encloses, Json.Readable, Json.ReadableMembers,
        operations]
  have services := Json.readableItems_map fun s (_ : s ∈ c.services) => service s
  simp [Catalogue.toJson, Json.Readable, Json.ReadableMembers, services]

theorem parse_render (c : Catalogue) : parse c.render = .ok c :=
  Json.decode_pretty c.toJson_readable c.decode_toJson (Json.newline_blank 0)

theorem render_newline (c : Catalogue) : c.render.toList.getLast? = some '\n' := by
  simp [render]

section

open Files (OnTree Tree)

variable {t t' : Tree} {path : String}

theorem save_writes {c : Catalogue} (saved : (c.save path : OnTree _).run t = (.ok (), t')) :
    ∃ before : Tree, before.write path c.render = (.ok (), t') := by
  rw [save, StateT.run_bind] at saved
  cases made : (Files.createParents path : OnTree _).run t with
  | mk result before =>
      rw [made] at saved
      cases result with
      | error reason => exact absurd (Prod.mk.inj saved).1 (by simp)
      | ok => exact ⟨before, saved⟩

theorem run_load : (load path : OnTree _).run t
    = ((t.readText path).mapError .file >>= fun text => (parse text).mapError .content, t) := by
  rw [load, StateT.run_bind, Files.run_readText]
  cases t.readText path <;> rfl

/-- A catalogue that was saved is loaded from the same path, and its text ends in a newline. -/
theorem saved_catalogue_loads {c : Catalogue}
    (saved : (c.save path : OnTree _).run t = (.ok (), t')) :
    (load path : OnTree _).run t' = (.ok c, t') ∧
      ∃ text, t'.readText path = .ok text ∧ text.toList.getLast? = some '\n' := by
  obtain ⟨before, written⟩ := save_writes saved
  have held := Tree.readText_written written
  refine ⟨?_, c.render, held, c.render_newline⟩
  rw [run_load, held]
  simp only [Except.mapError, bind, Except.bind, parse_render]

/-- A catalogue with an escaped description, an empty namespace and an operation with a single
form. -/
def sample : Catalogue :=
  .ofServices [{
    interfaceName := "Echo", enclosing := some "", description := "say \"hi\"\\\x01\n"
    operations := [{
      name := "Say", description := "", parameters := [⟨"text", "string"⟩], returnType := none
      emitSync := false, emitAsync := true }] }]

def sampled : Tree := ⟨[], [(["ir.json"], .file (.text sample.render))]⟩

theorem saved_sample_loads :
    (sample.save "ir.json" : OnTree _).run ⟨[], []⟩ = (.ok (), sampled) ∧
      (load "ir.json" : OnTree _).run sampled = (.ok sample, sampled) ∧
        ∃ text, sampled.readText "ir.json" = .ok text ∧ text.toList.getLast? = some '\n' := by
  have saved : (sample.save "ir.json" : OnTree _).run ⟨[], []⟩ = (.ok (), sampled) := by
    rfl
  exact ⟨saved, saved_catalogue_loads saved⟩

end

end Catalogue

end RemoteClient
