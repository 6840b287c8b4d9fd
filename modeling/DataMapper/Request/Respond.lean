import DataMapper.Request.Session

namespace DataMapper.Request

/-- Runs the operation a request names. -/
def respond (req : Value) : Except Malformed Value := do
  let op ← asText (getD req "op" .none)
  match ← context req with
  | .error f => return failureDump f
  | .ok c =>
    match op with
    | "resolve_tags" => resolveTagsOp c req
    | "metadata_tags" => metadataTagsOp c req
    | "dialect" => return dialectOp req
    | "page" => pageOp c req
    | "convert_params" => convertParamsOp c req
    | "paginate" => paginateOp c req
    | "metadata" => metadataOp c req
    | "sql" => sqlOp c req
    | "registry" => registryOp c req
    | "config" => return configOp req
    | "parse_literal" => parseLiteralOp c req
    | "validate" => validateOp c req
    | "map_rows" => mapRowsOp c req
    | "bind" => bindOp c req
    | "generate" => generateOp c req
    | "session" => sessionOp c req
    | _ => throw ("unknown op " ++ op)

/-- Answers one request line with one answer line. -/
def answerLine (line : String) : String :=
  let answer := match Json.read? line with
    | none => malformedDump "request is not JSON"
    | some req =>
      match respond req with
      | .ok v => v
      | .error m => malformedDump m
  match Json.write answer with
  | .ok s => s
  | .error e =>
    match Json.write (failureDump e.failure) with
    | .ok s => s
    | .error _ => "null"

end DataMapper.Request
