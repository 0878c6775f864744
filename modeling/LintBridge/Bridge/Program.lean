-- SUMMARY: The programs that drive the library, one for each generation of its interface.
import LintBridge.Version.Generation

/-!
# Bridge programs

The library runs in another process. A program for that process reads one request from its standard
input, carries it out with the library that the request names, and writes one response to its standard
output. The programs of the two generations differ in the actions and agree in all the rest.
-/

namespace LintBridge.Bridge

/-- A text of lines, each with its line break, after one empty line. -/
def programText (lines : List String) : String :=
  "\n" ++ String.join (lines.map (· ++ "\n"))

/-- The actions of the modern generation: the linter is built from options and run on a text. -/
def modernActions : List String := [
  "function loadConfiguration(library, path) \x7b",
  "  if (library.Configuration && library.Configuration.loadConfigurationFromPath) \x7b",
  "    return library.Configuration.loadConfigurationFromPath(path);",
  "  \x7d",
  "  return library.Linter.loadConfigurationFromPath(path);",
  "\x7d",
  "const actions = \x7b",
  "  loadConfiguration: (library, request) => loadConfiguration(library, request.configuration),",
  "  lint: (library, request) => \x7b",
  "    const configuration = loadConfiguration(library, request.configuration);",
  "    const linter = new library.Linter(request.options);",
  "    linter.lint(request.filePath, request.text, configuration);",
  "    return linter.getResult().failures.map(serializeFailure);",
  "  \x7d,",
  "\x7d;"]

/-- The actions of the legacy generation: the linter is built from the text, and the configuration
is one of its options. -/
def legacyActions : List String := [
  "const actions = \x7b",
  "  loadConfiguration: (library, request) => library.loadConfigurationFromPath(request.configuration),",
  "  lint: (library, request) => \x7b",
  "    const options = Object.assign(\x7b\x7d, request.options, \x7b",
  "      configuration: library.loadConfigurationFromPath(request.options.configuration),",
  "    \x7d);",
  "    const linter = new library(request.filePath, request.text, options);",
  "    return linter.lint().failures.map(serializeFailure);",
  "  \x7d,",
  "\x7d;"]

/-- What both programs share: the form of failures, and the reading and answering of the request. -/
def exchange : List String := [
  "function plain(key, value) \x7b",
  "  if (value instanceof Map) \x7b",
  "    const out = \x7b\x7d;",
  "    value.forEach((v, k) => \x7b out[k] = v; \x7d);",
  "    return out;",
  "  \x7d",
  "  if (value instanceof Set) \x7b",
  "    return Array.from(value);",
  "  \x7d",
  "  return value;",
  "\x7d",
  "function serializeFailure(failure) \x7b",
  "  const fix = typeof failure.getFix === \"function\" ? failure.getFix() : undefined;",
  "  return \x7b",
  "    message: failure.getFailure(),",
  "    ruleName: failure.getRuleName(),",
  "    start: failure.getStartPosition().toJson(),",
  "    end: failure.getEndPosition().toJson(),",
  "    fix: fix && fix.innerReplacements",
  "      ? \x7b ruleName: fix.innerRuleName, replacements: fix.innerReplacements \x7d",
  "      : fix,",
  "  \x7d;",
  "\x7d",
  "const chunks = [];",
  "process.stdin.on(\"data\", (chunk) => chunks.push(chunk));",
  "process.stdin.on(\"end\", () => \x7b",
  "  let response;",
  "  try \x7b",
  "    const request = JSON.parse(Buffer.concat(chunks).toString(\"utf8\"));",
  "    const library = require(request.library);",
  "    response = \x7b ok: true, result: actions[request.action](library, request) \x7d;",
  "  \x7d catch (error) \x7b",
  "    response = \x7b",
  "      ok: false,",
  "      error: String((error && error.message) || error),",
  "      stack: error && error.stack ? String(error.stack) : null,",
  "    \x7d;",
  "  \x7d",
  "  process.stdout.write(JSON.stringify(response, plain));",
  "\x7d);"]

/-- The actions of a generation. -/
def actions : Generation → List String
  | .modern => modernActions
  | .legacy => legacyActions

/-- The program that drives a library of a generation. -/
def program (generation : Generation) : String :=
  programText (actions generation) ++ programText exchange

end LintBridge.Bridge
