import Playbook.Config.Document

/-!
Reading a command by attribute. A command has attributes of its own, and those hide any key of the
same name; every other key is an attribute as well. Some of its own attributes commands are declared
with, and others every record has. Which these are is up to the library that records come from.
-/

namespace Playbook.Command

/-- The attribute that a command is declared with. Operations are opaque. -/
def declared? (c : Command) (name : String) : Option Value :=
  if name = "command" then some (.text c.name)
  else if name = "description" then some (c.description.value .text)
  else if name = "params" then some (.map c.params)
  else if name = "model_config" then
    some (.ofFields [("extra", .text "allow"), ("frozen", .bool true)])
  else if name = "get" ∨ name = "_check_command" then some .callable
  else none

/-- What commands have under a name because they are records. -/
abbrev Inheritance := Command → String → Option Value

/-- Operations that every record has under these names. -/
def operations : List String :=
  ["construct", "copy", "dict", "from_orm", "json", "model_construct", "model_copy", "model_dump",
    "model_dump_json", "model_json_schema", "model_parametrized_name", "model_post_init",
    "model_rebuild", "model_validate", "model_validate_json", "model_validate_strings",
    "parse_file", "parse_obj", "parse_raw", "schema", "schema_json", "update_forward_refs",
    "validate"]

/-- Names under which every record keeps its workings. -/
def workings : List String :=
  ["__abstractmethods__", "__annotations__", "__class__", "__class_getitem__", "__class_vars__",
    "__copy__", "__deepcopy__", "__delattr__", "__dict__", "__dir__", "__doc__", "__eq__",
    "__fields__", "__fields_set__", "__format__", "__ge__", "__get_pydantic_core_schema__",
    "__get_pydantic_json_schema__", "__getattr__", "__getattribute__", "__getstate__", "__gt__",
    "__hash__", "__init__", "__init_subclass__", "__iter__", "__le__", "__lt__", "__module__",
    "__ne__", "__new__", "__pretty__", "__private_attributes__", "__pydantic_complete__",
    "__pydantic_computed_fields__", "__pydantic_core_schema__", "__pydantic_custom_init__",
    "__pydantic_decorators__", "__pydantic_extra__", "__pydantic_fields__",
    "__pydantic_fields_set__", "__pydantic_generic_metadata__", "__pydantic_init_subclass__",
    "__pydantic_parent_namespace__", "__pydantic_post_init__", "__pydantic_private__",
    "__pydantic_root_model__", "__pydantic_serializer__", "__pydantic_setattr_handlers__",
    "__pydantic_validator__", "__reduce__", "__reduce_ex__", "__replace__", "__repr__",
    "__repr_args__", "__repr_name__", "__repr_recursion__", "__repr_str__", "__rich_repr__",
    "__setattr__", "__setstate__", "__sizeof__", "__slots__", "__str__", "__subclasshook__",
    "__weakref__", "_abc_impl", "_calculate_keys", "_copy_and_set_values", "_get_value", "_iter",
    "_setattr_handler", "model_fields"]

/-- The keys that a command was given, declared or not. -/
def givenKeys (c : Command) : List String :=
  "command" :: (if c.description.isPresent then ["description"] else []) ++ c.others.map Prod.fst

/-- The attributes that records have as a rule. Operations and workings are opaque. -/
def inherited? : Inheritance := fun c name =>
  if name = "model_extra" then some (.map c.params)
  else if name = "model_fields_set" then some (.set (c.givenKeys.map .text))
  else if name = "model_computed_fields" then some (.map [])
  else if name ∈ operations ∨ name ∈ workings then some .callable
  else none

/-- The attribute that a command has whatever its further keys are. -/
def ownAttribute? (c : Command) (name : String) (inherits : Inheritance := inherited?) :
    Option Value :=
  (c.declared? name).or (inherits c name)

/-- The attribute of a command; none when it has no such attribute and no such key. -/
def attribute? (c : Command) (name : String) (inherits : Inheritance := inherited?) :
    Option Value :=
  (c.ownAttribute? name inherits).or (c.others.lookup name)

end Playbook.Command
