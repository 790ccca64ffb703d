import RunnerGateway.Json.Shape

/-!
# The records that the gateway exchanges

Every JSON object with named fields that the gateway reads from its clients, its store or its
callers, with the kind of each field.  The inference records and the model entries keep the members
they do not know; the configuration records of the administration drop them, but a backend's entry
among them keeps them.
-/

namespace RunnerGateway

open Json

/-- A kind of record. -/
inductive Record
  | backendConfig
  | runnerConfig
  | configUpdate
  | verifyConnection
  | chatMessage
  | chat
  | generate
  | embed
  | modelName
  | modelEntry
  | modelList
  deriving DecidableEq, Repr

namespace Record

/-- What a record is called where something else was found. -/
def title : Record → String
  | backendConfig => "BackendConfig"
  | runnerConfig => "RunnerConfig"
  | configUpdate => "ConfigUpdateForm"
  | verifyConnection => "VerifyConnectionForm"
  | chatMessage => "ChatMessage"
  | chat => "ChatCompletionForm"
  | generate => "GenerateCompletionForm"
  | embed => "EmbedForm"
  | modelName => "ModelNameForm"
  | modelEntry => "ModelEntry"
  | modelList => "ModelList"

/-- The key of the switch for the whole runner interface. -/
def enabledKey : String := "ENABLE_DOCKER_MODEL_RUNNER_API"

/-- The key of the list of base URLs. -/
def baseUrlsKey : String := "DOCKER_MODEL_RUNNER_BASE_URLS"

/-- The key of the dictionary of backend entries. -/
def apiConfigsKey : String := "DOCKER_MODEL_RUNNER_API_CONFIGS"

/-- A dictionary with values of any kind. -/
def object : Shape Record := .dict .any

/-- The fields of a record. -/
def fields : Record → List (Json.Field Record)
  | backendConfig => [
      ⟨"enable", .defaulted, .bool⟩,
      ⟨"key", .optional, .string⟩,
      ⟨"prefix_id", .optional, .string⟩,
      ⟨"tags", .defaulted, .list .tag⟩,
      ⟨"model_ids", .defaulted, .list .string⟩,
      ⟨"connection_type", .optional, .string⟩]
  | runnerConfig => [
      ⟨enabledKey, .defaulted, .bool⟩,
      ⟨baseUrlsKey, .defaulted, .list .string⟩,
      ⟨apiConfigsKey, .defaulted, .dict (.record backendConfig)⟩]
  | configUpdate => [
      ⟨enabledKey, .optional, .bool⟩,
      ⟨baseUrlsKey, .required, .list .string⟩,
      ⟨apiConfigsKey, .required, .dict (.record backendConfig)⟩]
  | verifyConnection => [
      ⟨"url", .required, .string⟩,
      ⟨"key", .optional, .string⟩]
  | chatMessage => [
      ⟨"role", .required, .string⟩,
      ⟨"content", .optional, .string⟩,
      ⟨"tool_calls", .optional, .list object⟩,
      ⟨"images", .optional, .list .string⟩]
  | chat => [
      ⟨"model", .required, .string⟩,
      ⟨"messages", .required, .list (.record chatMessage)⟩,
      ⟨"format", .optional, .any⟩,
      ⟨"options", .optional, object⟩,
      ⟨"template", .optional, .string⟩,
      ⟨"stream", .optional, .bool⟩,
      ⟨"keep_alive", .optional, .any⟩,
      ⟨"tools", .optional, .list object⟩,
      ⟨"metadata", .optional, .any⟩]
  | generate => [
      ⟨"model", .required, .string⟩,
      ⟨"prompt", .optional, .string⟩,
      ⟨"suffix", .optional, .string⟩,
      ⟨"images", .optional, .list .string⟩,
      ⟨"format", .optional, .any⟩,
      ⟨"options", .optional, object⟩,
      ⟨"system", .optional, .string⟩,
      ⟨"template", .optional, .string⟩,
      ⟨"stream", .optional, .bool⟩,
      ⟨"raw", .optional, .bool⟩,
      ⟨"keep_alive", .optional, .any⟩,
      ⟨"metadata", .optional, .any⟩]
  | embed => [
      ⟨"model", .required, .string⟩,
      ⟨"input", .optional, .any⟩,
      ⟨"prompt", .optional, .string⟩,
      ⟨"options", .optional, object⟩,
      ⟨"keep_alive", .optional, .any⟩]
  | modelName => [
      ⟨"model", .optional, .string⟩]
  | modelEntry => [
      ⟨"model", .required, .string⟩,
      ⟨"urls", .defaulted, .list .index⟩]
  | modelList => [
      ⟨"models", .required, .list (.record modelEntry)⟩]

/-- What happens to members that are no fields. -/
def rest : Record → Rest
  | runnerConfig | configUpdate | verifyConnection | modelList => .ignored
  | backendConfig | chatMessage | chat | generate | embed | modelName | modelEntry => .kept

/-- All records together. -/
def schema : Schema Record where
  title := title
  fields := fields
  rest := rest

/-- The member `key` of a record in canonical form, unless it is missing or `null`. -/
def member? (members : Dict Json) (key : String) : Option Json :=
  match Dict.get? members key with
  | some .null => none
  | found => found

/-- The members of a record in canonical form that are no fields. -/
def extras (r : Record) (members : Dict Json) : Dict Json :=
  members.filter fun m => (schema.field? r m.1).isNone

/-- The items of a list in canonical form that are strings. -/
def strings (v : Json) : List String :=
  (v.array?.getD []).filterMap Json.string?

end Record
end RunnerGateway
