import TopicAccess.FileTree
import TopicAccess.Settings.Convention
import TopicAccess.Text.Charset
import TopicAccess.Text.Newline

/-!
# Where settings are looked for

Besides what the caller gives and the environment, settings are looked for in files of variables and
in directories of secrets, where a file is named like a variable and holds its value. The caller may
say which these are, how the files are encoded and by which convention variables stand for settings.
What is not there is passed over.
-/
namespace TopicAccess.Settings

inductive SearchFault where
  | splitNotNumber (kind : String)
  | notIterable (kind : String)
  | notPath (kind : String)
  | noHome
  | unsearchable (path : FileTree.Path) (fault : FileTree.ReadFault)
  | charsetNotText (kind : String)
  | unknownCharset (name : String)
  | undecodable (fault : Text.Charset.Fault)
  | lineNotList (kind : String)
  | startNotText
  | secretsNotDirectory
  | unreadableSecret (setting : String)

def lookUpMessage (setting source : String) : String :=
  "error getting value for field \"" ++ setting ++ "\" from source \"" ++ source ++ "\""

def SearchFault.message : SearchFault → String
  | splitNotNumber kind => "unsupported operand type(s) for -: '" ++ kind ++ "' and 'int'"
  | notIterable kind => "'" ++ kind ++ "' object is not iterable"
  | notPath kind => "expected str, bytes or os.PathLike object, not " ++ kind
  | noHome => "Could not determine home directory."
  | unsearchable path fault => fault.message path
  | charsetNotText kind => "open() argument 'encoding' must be str or None, not " ++ kind
  | unknownCharset name => "unknown encoding: " ++ name
  | undecodable fault => fault.message
  | lineNotList kind =>
    "cli_parse_args must be a list or tuple of strings, received <class '" ++ kind ++ "'>"
  | startNotText => lookUpMessage "env" "EnvSettingsSource"
  | secretsNotDirectory => "secrets_dir must reference a directory, not a file"
  | unreadableSecret setting => lookUpMessage setting "SecretsSettingsSource"

namespace Search

/-- The arguments that say where settings are looked for. They are no settings. -/
def arguments : List String := [
  "_case_sensitive", "_nested_model_default_partial_update", "_env_prefix", "_env_prefix_target",
  "_env_file", "_env_file_encoding", "_env_ignore_empty", "_env_nested_delimiter",
  "_env_nested_max_split", "_env_parse_none_str", "_env_parse_enums", "_cli_prog_name",
  "_cli_parse_args", "_cli_settings_source", "_cli_parse_none_str", "_cli_hide_none_type",
  "_cli_avoid_json", "_cli_enforce_required", "_cli_use_class_docs_for_groups",
  "_cli_exit_on_error", "_cli_prefix", "_cli_flag_prefix_char", "_cli_implicit_flags",
  "_cli_ignore_unknown_args", "_cli_kebab_case", "_cli_shortcuts", "_secrets_dir",
  "_build_sources"]

def given? (arguments : Json.Fields) (name : String) : Option Json :=
  match arguments.get? name with
  | some .null | none => none
  | some value => some value

/-- Whether an argument is given as something that does not count as false. -/
def isSet (arguments : Json.Fields) (name : String) : Bool :=
  ((given? arguments name).map fun value => !value.isVoid).getD false

def convention (arguments : Json.Fields) : Convention :=
  let usual : Convention := {}
  { start := ((given? arguments "_env_prefix").bind Json.str?).getD usual.start
    addsStart := (given? arguments "_env_prefix_target").bind Json.str? != some "alias"
    mindsCase := isSet arguments "_case_sensitive"
    skipsEmpty := isSet arguments "_env_ignore_empty"
    nullText := (given? arguments "_env_parse_none_str").bind Json.str? }

/-- The fault of the number of parts that a name is split into, if it has one. -/
def splitFault? (arguments : Json.Fields) : Option SearchFault :=
  match given? arguments "_env_nested_max_split" with
  | some value =>
    if value.isVoid || ["bool", "int", "float"].contains value.kind then none
    else some (.splitNotNumber value.kind)
  | none => none

/-- The fault of the command line to be read, if it has one. -/
def lineFault? (arguments : Json.Fields) : Option SearchFault :=
  match given? arguments "_cli_parse_args" with
  | some (.bool _) | some (.arr _) | none => none
  | some value =>
    if ["int", "float"].contains value.kind && value.isVoid then none
    else some (.lineNotList value.kind)

/-- The fault of the beginning of variable names, if it has one. -/
def startFault? (arguments : Json.Fields) : Option SearchFault :=
  match given? arguments "_env_prefix" with
  | some (.str _) | none => none
  | some _ => some .startNotText

/-- The places that an argument lists. A single text is the only one. -/
def places : Json → Except SearchFault (List Json)
  | .null => .ok []
  | .str text => .ok [.str text]
  | .brokenStr codes => .ok [.brokenStr codes]
  | .arr items => .ok items
  | .obj members => .ok (members.map fun member => .str member.1)
  | .brokenObj names _ => .ok (names.map fun name => .ofLoose (.ofCodes name))
  | value => .error (.notIterable value.kind)

/-- The path that a text is. A tilde in front of it leads to the home of a user, where there is
nothing to be found. -/
def pathOfText (text : Text.Loose) : Except SearchFault (Option FileTree.Path) :=
  let path := FileTree.Path.ofText text
  match path.start, path.names with
  | .working, (.char '~' :: user) :: _ => if user = [] then .ok none else .error .noHome
  | _, _ => .ok (some path)

def pathOf : Json → Except SearchFault (Option FileTree.Path)
  | .str text => pathOfText text
  | .brokenStr codes => pathOfText (.ofCodes codes)
  | value => .error (.notPath value.kind)

/-- The path that a place is named by, and what it leads to. -/
def placeOf (files : FileTree) (place : Json) :
    Except SearchFault (Option (FileTree.Path × FileTree.Place)) :=
  match pathOf place with
  | .error fault => .error fault
  | .ok none => .ok none
  | .ok (some path) =>
    match files.find? path with
    | .ok found => .ok (found.map fun place => (path, place))
    | .error fault => .error (.unsearchable path fault)

/-- The character set of files of variables. A mark in front of the text is not part of it, unless
a set is asked for. -/
def charset (arguments : Json.Fields) : Except SearchFault Text.Charset :=
  match given? arguments "_env_file_encoding" with
  | none => .ok .utf8Marked
  | some (.str name) =>
    if name = "" then .ok .utf8Marked
    else match Text.Charset.ofName? name with
      | some charset => .ok charset
      | none => .error (.unknownCharset name)
  | some value => if value.isVoid then .ok .utf8Marked else .error (.charsetNotText value.kind)

def variablesOf (arguments : Json.Fields) (environment : Variables) (bytes : List UInt8) :
    Except SearchFault Variables :=
  match charset arguments with
  | .error fault => .error fault
  | .ok charset =>
    match Text.Charset.decode bytes charset with
    | .ok text => .ok (VariableFile.read environment text)
    | .error fault => .error (.undecodable fault)

/-- The name of the file of variables that is looked for unless the caller names others. -/
def usualFile : String := ".env"

/-- The variables that all files set, in the order of the files. -/
def fileVariables (arguments : Json.Fields) (environment : Variables) (files : FileTree) :
    Except SearchFault Variables := do
  let named ← places ((arguments.get? "_env_file").getD (.str usualFile))
  let read ← named.mapM fun place => do
    match ← placeOf files place with
    | some (_, ⟨_, .file bytes⟩) => variablesOf arguments environment bytes
    | some (path, ⟨_, .broken fault⟩) => Except.error (.unsearchable path (.broken fault))
    | _ => return []
  return read.flatten

/-- The secrets in a directory by their names. Only a name that is a text can be asked for. -/
def secretsAt (files : FileTree) (place : FileTree.Place) :
    Except SearchFault (List (String × FileTree.Entry)) :=
  match place.entry with
  | .directory =>
    .ok ((files.children place.names).filterMap fun (name, entry) =>
      match Text.Utf8.decode name, entry with
      | .error _, _ | _, .directory => none
      | .ok name, entry => some (String.ofList name, entry))
  | _ => .error .secretsNotDirectory

/-- The text of a secret, without white space around it. -/
def secretText (setting : String) (secret : FileTree.Entry) : Except SearchFault String :=
  match secret with
  | .file bytes =>
    match Text.Utf8.decode bytes with
    | .ok text =>
      .ok (String.ofList (Text.dropEnds Text.isSpacing (Text.unifyNewlines text)))
    | .error _ => .error (.unreadableSecret setting)
  | _ => .error (.unreadableSecret setting)

/-- The secret for a setting, which the last directory that has it gives. -/
def secretFor (convention : Convention) (directories : List (List (String × FileTree.Entry)))
    (setting : String) : Except SearchFault (Option (String × Json)) :=
  let wanted := convention.variableFor setting
  let found := directories.reverse.findSome? fun secrets =>
    (secrets.find? fun secret => convention.plain secret.1 == wanted).map (·.2)
  match found with
  | none => .ok none
  | some secret => (secretText setting secret).map fun text => some (setting, .str text)

def secrets (arguments : Json.Fields) (files : FileTree) : Except SearchFault Json.Fields := do
  let named ← places ((arguments.get? "_secrets_dir").getD .null)
  let found ← named.mapM (placeOf files)
  let directories ← (found.filterMap id).mapM fun (_, place) => secretsAt files place
  let given ← names.mapM (secretFor (convention arguments) directories)
  return given.filterMap id

end Search

end TopicAccess.Settings
