import CodePager.Tools.Category

/-! # The tools

Every tool of the bridge and what is known about it: its name and category, what it does in one line
and in full, an example of its arguments, the keywords that find it, and the description under which
it is offered to clients. `Tool.all` fixes the order in which tools are listed. -/

namespace CodePager

/-- What is known about a tool. -/
structure ToolInfo where
  name : String
  category : ToolCategory
  /-- What the tool does, in one line. -/
  summary : String
  /-- What the tool does, in full. -/
  details : String
  /-- Arguments of an example call. -/
  usage : String
  keywords : List String
  /-- The description under which the tool is offered. -/
  offer : String

/-- A tool of the bridge. -/
inductive Tool where
  | health
  | toolCatalog
  | toolHelp
  | getCurrentClass
  | getSelectedText
  | getAllClasses
  | getClassSource
  | getSmaliOfClass
  | getClassInfo
  | getMethods
  | getFields
  | getMethodSource
  | getMethodSourcePage
  | getMethodInfo
  | searchMethod
  | getMethodParameters
  | getMethodInstructions
  | getAndroidManifest
  | getMainActivity
  | getMainApplicationClassesCode
  | getMainApplicationClassesNames
  | getStrings
  | getListAllResourceFilesNames
  | getResourceFile
  | getCachedPage
  | cacheStats
  | clearCache
  | renameClass
  | renameMethod
  | renameField
  | renameMethodParameter
  | addClassComment
  | addMethodComment
  | addFieldComment
  deriving DecidableEq

namespace Tool

/-- Every tool, in the order in which they are listed. -/
def all : List Tool :=
  [.health, .toolCatalog, .toolHelp, .getCurrentClass, .getSelectedText, .getAllClasses,
   .getClassSource, .getSmaliOfClass, .getClassInfo, .getMethods, .getFields, .getMethodSource,
   .getMethodSourcePage, .getMethodInfo, .searchMethod, .getMethodParameters,
   .getMethodInstructions, .getAndroidManifest, .getMainActivity, .getMainApplicationClassesCode,
   .getMainApplicationClassesNames, .getStrings, .getListAllResourceFilesNames, .getResourceFile,
   .getCachedPage, .cacheStats, .clearCache, .renameClass, .renameMethod, .renameField,
   .renameMethodParameter, .addClassComment, .addMethodComment, .addFieldComment]

/-- What is known about a tool. -/
def info : Tool → ToolInfo
  | .health =>
    { name := "health"
      category := .core
      summary := "Check that the JADX plugin is reachable"
      details := "Call the plugin's /health route and report its answer together with the " ++
        "backend URL. Fails with a transport error when JADX is not running or the plugin's " ++
        "HTTP server is not started."
      usage := "\x7b\x7d"
      keywords := ["health", "status", "ping", "alive", "backend", "connect"]
      offer := "Check that the JADX plugin backend is reachable and report its status." }
  | .toolCatalog =>
    { name := "tool_catalog"
      category := .core
      summary := "Discover tools by query or category"
      details := "Search the tool registry. With query, ranks tools by name, description and " ++
        "keyword matches. With category, lists the tools of that category. With neither, lists " ++
        "the categories."
      usage := "\x7b\"query\": \"rename a method\"\x7d"
      keywords := ["discover", "find", "search", "tools", "help", "catalog"]
      offer := "Discover available tools by query or category. Use this to find the right tool " ++
        "for your task before calling tool_help for full details." }
  | .toolHelp =>
    { name := "tool_help"
      category := .core
      summary := "Full documentation for one tool"
      details := "Return the full description, JSON parameter schema, example and keywords of " ++
        "a tool. Unknown names return close matches."
      usage := "\x7b\"name\": \"get_class_source\"\x7d"
      keywords := ["help", "docs", "schema", "parameters", "usage"]
      offer := "Get full documentation for a tool including description, parameters schema, " ++
        "and example." }
  | .getCurrentClass =>
    { name := "get_current_class"
      category := .classes
      summary := "Source of the class open in the JADX window"
      details := "Decompiled source of the class currently selected in the JADX GUI. Large " ++
        "sources are cached and paged (page_index, page_size)."
      usage := "\x7b\x7d"
      keywords := ["current", "selected", "open", "class", "source", "gui"]
      offer := "Source of the class currently open in the JADX window (paged)." }
  | .getSelectedText =>
    { name := "get_selected_text"
      category := .classes
      summary := "Text selected in the JADX window"
      details := "The text fragment currently highlighted in the JADX GUI code view. Paged " ++
        "like any other text result."
      usage := "\x7b\x7d"
      keywords := ["selected", "selection", "highlight", "text", "gui"]
      offer := "Text currently selected in the JADX window (paged)." }
  | .getAllClasses =>
    { name := "get_all_classes"
      category := .classes
      summary := "List every class in the project"
      details := "All classes of the loaded APK/DEX, including inner and anonymous classes. " ++
        "The list is cached once and paged by record; ask for page_index=2,3,... to continue " ++
        "without refetching."
      usage := "\x7b\"page_index\": 1, \"page_size\": 500\x7d"
      keywords := ["classes", "list", "all", "enumerate", "packages", "structure"]
      offer := "List every class in the project, including inner and anonymous classes (paged)." }
  | .getClassSource =>
    { name := "get_class_source"
      category := .classes
      summary := "Decompiled Java source of a class"
      details := "Full decompiled Java source of one class. Identify it with class_raw_name " ++
        "(obfuscated name, survives renames) or class_name (display name); the raw name wins " ++
        "when both are given and the result reports found_by. Sources of at least the cache " ++
        "threshold in lines are cached under get-class-source:<class> and returned one page at " ++
        "a time."
      usage := "\x7b\"class_name\": \"com.example.MainActivity\", \"page_index\": 1\x7d"
      keywords := ["source", "decompile", "java", "class", "code", "read"]
      offer := "Decompiled Java source of a class (paged). Identify the class by " ++
        "class_raw_name (preferred) or class_name." }
  | .getSmaliOfClass =>
    { name := "get_smali_of_class"
      category := .classes
      summary := "Smali disassembly of a class"
      details := "Smali (Dalvik assembly) of one class, identified like get_class_source. " ++
        "Usually much longer than the Java source, so expect several pages."
      usage := "\x7b\"class_raw_name\": \"a.b.c\", \"page_index\": 2\x7d"
      keywords := ["smali", "dalvik", "bytecode", "disassembly", "class"]
      offer := "Smali disassembly of a class (paged)." }
  | .getClassInfo =>
    { name := "get_class_info"
      category := .classes
      summary := "Class metadata (modifiers, super class, interfaces)"
      details := "Metadata of one class: full name, package, access flags, super class and " ++
        "implemented interfaces. Returned inline, never cached."
      usage := "\x7b\"class_name\": \"com.example.MainActivity\"\x7d"
      keywords := ["info", "metadata", "class", "super", "interfaces", "modifiers"]
      offer := "Class metadata: name, package, modifiers, super class, interfaces." }
  | .getMethods =>
    { name := "get_methods"
      category := .classes
      summary := "Methods declared in a class"
      details := "Methods of one class with names, signatures and access flags. Paged by " ++
        "record when the class is large."
      usage := "\x7b\"class_name\": \"com.example.MainActivity\"\x7d"
      keywords := ["methods", "list", "members", "functions", "class"]
      offer := "Methods declared in a class with their signatures (paged)." }
  | .getFields =>
    { name := "get_fields"
      category := .classes
      summary := "Fields declared in a class"
      details := "Fields of one class with names, types and access flags. Paged by record when " ++
        "the class is large."
      usage := "\x7b\"class_raw_name\": \"a.b.c\"\x7d"
      keywords := ["fields", "members", "variables", "attributes", "class"]
      offer := "Fields declared in a class with their types (paged)." }
  | .getMethodSource =>
    { name := "get_method_source"
      category := .methods
      summary := "Decompiled source of one method"
      details := "Decompiled source of one method. Identify the class as in get_class_source " ++
        "and the method by method_original_name (wins) or method_name; pass method_signature " ++
        "to pick an overload. Every full fetch also replaces the source kept for " ++
        "get_method_source_page."
      usage := "\x7b\"class_name\": \"com.example.MainActivity\", \"method_name\": " ++
        "\"onCreate\"\x7d"
      keywords := ["method", "source", "decompile", "function", "code"]
      offer := "Decompiled source of one method (paged). The full source is also kept for " ++
        "get_method_source_page." }
  | .getMethodSourcePage =>
    { name := "get_method_source_page"
      category := .methods
      summary := "Page through the last fetched method source"
      details := "Slice the most recently fetched method source into pages of lines_per_page " ++
        "lines without contacting the backend. Fails with not-found before any " ++
        "get_method_source call."
      usage := "\x7b\"page_index\": 2, \"lines_per_page\": 100\x7d"
      keywords := ["method", "page", "next", "continue", "source"]
      offer := "Page through the most recently fetched method source without refetching." }
  | .getMethodInfo =>
    { name := "get_method_info"
      category := .methods
      summary := "Method metadata (signature, modifiers, types)"
      details := "Signature, access flags, return type and parameter types of one method. " ++
        "Returned inline with found_by."
      usage := "\x7b\"class_name\": \"com.example.Api\", \"method_name\": \"login\"\x7d"
      keywords := ["method", "info", "signature", "metadata", "return", "types"]
      offer := "Method metadata: signature, modifiers, return and parameter types." }
  | .searchMethod =>
    { name := "search_method"
      category := .methods
      summary := "Search methods by name"
      details := "Find methods whose name contains method_name (or method_original_name), " ++
        "across the project or within one class when class_name/class_raw_name is given. " ++
        "method_signature narrows to an exact overload. Results are paged."
      usage := "\x7b\"method_name\": \"encrypt\"\x7d"
      keywords := ["search", "find", "method", "name", "lookup", "grep"]
      offer := "Search methods by name across the project or within one class (paged)." }
  | .getMethodParameters =>
    { name := "get_method_parameters"
      category := .methods
      summary := "Parameters of a method"
      details := "Parameter list of one method with types and names, identified like " ++
        "get_method_source."
      usage := "\x7b\"class_name\": \"com.example.Api\", \"method_name\": \"login\"\x7d"
      keywords := ["parameters", "arguments", "params", "method", "types"]
      offer := "Parameters of a method with their types and names (paged)." }
  | .getMethodInstructions =>
    { name := "get_method_instructions"
      category := .methods
      summary := "Bytecode instructions of a method"
      details := "Dalvik instruction listing of one method. Long listings are cached and paged " ++
        "by line."
      usage := "\x7b\"class_raw_name\": \"a.b.c\", \"method_original_name\": \"a\"\x7d"
      keywords := ["instructions", "bytecode", "opcodes", "dalvik", "method"]
      offer := "Bytecode instruction listing of a method (paged)." }
  | .getAndroidManifest =>
    { name := "get_android_manifest"
      category := .android
      summary := "AndroidManifest.xml"
      details := "Decoded AndroidManifest.xml: package, permissions, components, intent " ++
        "filters. Paged by line."
      usage := "\x7b\x7d"
      keywords := ["manifest", "permissions", "activities", "services", "receivers", "xml"]
      offer := "AndroidManifest.xml of the loaded APK (paged)." }
  | .getMainActivity =>
    { name := "get_main_activity"
      category := .android
      summary := "Source of the launcher activity"
      details := "Decompiled source of the activity declared as MAIN/LAUNCHER in the manifest."
      usage := "\x7b\x7d"
      keywords := ["main", "activity", "launcher", "entry", "start"]
      offer := "Source of the launcher activity declared in the manifest (paged)." }
  | .getMainApplicationClassesCode =>
    { name := "get_main_application_classes_code"
      category := .android
      summary := "Source of the Application and main app classes"
      details := "Decompiled source of the Application class and the classes in the app's main " ++
        "package. Usually large, so it is cached and paged."
      usage := "\x7b\"page_index\": 1, \"page_size\": 500\x7d"
      keywords := ["application", "main", "classes", "code", "package", "source"]
      offer := "Source of the Application class and the main classes of the app package " ++
        "(paged)." }
  | .getMainApplicationClassesNames =>
    { name := "get_main_application_classes_names"
      category := .android
      summary := "Names of the Application and main app classes"
      details := "Names of the Application class and the classes in the app's main package."
      usage := "\x7b\x7d"
      keywords := ["application", "main", "classes", "names", "package", "list"]
      offer := "Names of the Application class and the main classes of the app package (paged)." }
  | .getStrings =>
    { name := "get_strings"
      category := .resources
      summary := "String resources (strings.xml)"
      details := "String resources of the app as found in strings.xml. Paged."
      usage := "\x7b\"page_index\": 1\x7d"
      keywords := ["strings", "resources", "text", "xml", "localization"]
      offer := "String resources from strings.xml (paged)." }
  | .getListAllResourceFilesNames =>
    { name := "get_list_all_resource_files_names"
      category := .resources
      summary := "Names of every resource file"
      details := "Names of all resource files in the APK (layouts, drawables, raw assets). " ++
        "Paged by record."
      usage := "\x7b\x7d"
      keywords := ["resources", "files", "list", "layouts", "assets", "names"]
      offer := "Names of every resource file in the APK (paged)." }
  | .getResourceFile =>
    { name := "get_resource_file"
      category := .resources
      summary := "Content of one resource file"
      details := "Decoded content of one resource file, cached under " ++
        "get-resource-file:<filename> when large."
      usage := "\x7b\"filename\": \"res/layout/activity_main.xml\"\x7d"
      keywords := ["resource", "file", "layout", "xml", "content", "read"]
      offer := "Content of one resource file, e.g. res/layout/activity_main.xml (paged)." }
  | .getCachedPage =>
    { name := "get_cached_page"
      category := .paging
      summary := "Read a page of any cached result"
      details := "Slice the entry stored under cache_key (as returned by any cached read) into " ++
        "the requested page. Never contacts the backend; fails with not-found when the entry " ++
        "was evicted or invalidated."
      usage := "\x7b\"cache_key\": \"get-class-source:com.example.MainActivity\", " ++
        "\"page_index\": 3\x7d"
      keywords := ["page", "cache", "next", "continue", "key"]
      offer := "Read one page of any cached result by its cache_key. Never contacts the " ++
        "backend." }
  | .cacheStats =>
    { name := "cache_stats"
      category := .paging
      summary := "Cache statistics and live entries"
      details := "Entry count, capacity, threshold, default page size, " ++
        "hit/miss/eviction/invalidation counters and a summary of every live entry and slot."
      usage := "\x7b\x7d"
      keywords := ["cache", "stats", "statistics", "entries", "memory"]
      offer := "Cache statistics: live entries, capacity, threshold, hits, misses, evictions." }
  | .clearCache =>
    { name := "clear_cache"
      category := .paging
      summary := "Drop one cached entry or the whole cache"
      details := "Remove the entry stored under cache_key, or every entry and slot when no key " ++
        "is given. The next read refetches from the backend."
      usage := "\x7b\"cache_key\": \"get-all-classes\"\x7d"
      keywords := ["cache", "clear", "invalidate", "flush", "reset"]
      offer := "Drop one cached entry by cache_key, or the whole cache when no key is given." }
  | .renameClass =>
    { name := "rename_class"
      category := .editing
      summary := "Rename a class"
      details := "Rename one class in the JADX project. An empty or missing new_name resets " ++
        "the class to its original name. Flushes the whole cache, since references in other " ++
        "classes change too."
      usage := "\x7b\"class_raw_name\": \"a.b.c\", \"new_name\": \"LoginActivity\"\x7d"
      keywords := ["rename", "class", "name", "deobfuscate", "label"]
      offer := "Rename a class. An empty new_name resets it to the original name. Flushes the " ++
        "cache." }
  | .renameMethod =>
    { name := "rename_method"
      category := .editing
      summary := "Rename a method"
      details := "Rename one method, identified like get_method_source. An empty new_name " ++
        "resets it. Flushes the whole cache."
      usage := "\x7b\"class_name\": \"com.example.Api\", \"method_original_name\": \"a\", " ++
        "\"new_name\": \"login\"\x7d"
      keywords := ["rename", "method", "function", "name", "deobfuscate"]
      offer := "Rename a method. An empty new_name resets it to the original name. Flushes the " ++
        "cache." }
  | .renameField =>
    { name := "rename_field"
      category := .editing
      summary := "Rename a field"
      details := "Rename one field, identified by field_raw_name (wins) or field_name inside a " ++
        "class. An empty new_name resets it. Flushes the whole cache."
      usage := "\x7b\"class_name\": \"com.example.Api\", \"field_raw_name\": \"b\", " ++
        "\"new_name\": \"token\"\x7d"
      keywords := ["rename", "field", "variable", "member", "name"]
      offer := "Rename a field. An empty new_name resets it to the original name. Flushes the " ++
        "cache." }
  | .renameMethodParameter =>
    { name := "rename_method_parameter"
      category := .editing
      summary := "Rename a method parameter"
      details := "Rename the parameter at 0-based parameter_index of one method. Flushes the " ++
        "whole cache."
      usage := "\x7b\"class_name\": \"com.example.Api\", \"method_name\": \"login\", " ++
        "\"parameter_index\": 0, \"new_name\": \"user\"\x7d"
      keywords := ["rename", "parameter", "argument", "method", "name"]
      offer := "Rename one parameter of a method by its 0-based index. Flushes the cache." }
  | .addClassComment =>
    { name := "add_class_comment"
      category := .editing
      summary := "Comment a class"
      details := "Attach a comment to one class. style is JAVADOC (default) or LINE. Flushes " ++
        "the whole cache."
      usage := "\x7b\"class_name\": \"com.example.Api\", \"comment\": \"REST client\"\x7d"
      keywords := ["comment", "annotate", "note", "class", "javadoc"]
      offer := "Attach a comment to a class. style is JAVADOC (default) or LINE. Flushes the " ++
        "cache." }
  | .addMethodComment =>
    { name := "add_method_comment"
      category := .editing
      summary := "Comment a method"
      details := "Attach a comment to one method. style is JAVADOC (default) or LINE. Flushes " ++
        "the whole cache."
      usage := "\x7b\"class_name\": \"com.example.Api\", \"method_name\": \"login\", " ++
        "\"comment\": \"Posts credentials\"\x7d"
      keywords := ["comment", "annotate", "note", "method", "javadoc"]
      offer := "Attach a comment to a method. style is JAVADOC (default) or LINE. Flushes the " ++
        "cache." }
  | .addFieldComment =>
    { name := "add_field_comment"
      category := .editing
      summary := "Comment a field"
      details := "Attach a comment to one field. style is LINE (default) or JAVADOC. Flushes " ++
        "the whole cache."
      usage := "\x7b\"class_name\": \"com.example.Api\", \"field_name\": \"token\", " ++
        "\"comment\": \"Bearer token\"\x7d"
      keywords := ["comment", "annotate", "note", "field", "line"]
      offer := "Attach a comment to a field. style is LINE (default) or JAVADOC. Flushes the " ++
        "cache." }

/-- The name of a tool. -/
def name (t : Tool) : String := t.info.name

/-- The tool with a name. -/
def ofName? (name : String) : Option Tool := all.find? fun t => t.name == name

/-- The tools of a category. -/
def inCategory (c : ToolCategory) : List Tool := all.filter fun t => t.info.category = c

/-- Every tool is listed. -/
theorem mem_all (t : Tool) : t ∈ all := by cases t <;> decide

end Tool

end CodePager
