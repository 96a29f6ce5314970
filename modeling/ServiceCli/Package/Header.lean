import ServiceCli.Package.Meta
import ServiceCli.Source.Line

set_option autoImplicit false
set_option relaxedAutoImplicit false

namespace ServiceCli.Package

open ServiceCli.Source

def importLines (m : Meta) : List Line := codeLines [
  "",
  "from __future__ import annotations",
  "",
  "import os",
  "from typing import List, Optional",
  "",
  "import typer",
  "",
  "from shapecli import runtime as rt",
  "from " ++ m.clientModule ++ " import models",
  "from " ++ m.clientModule ++ ".client import " ++ m.clientClass,
  "from " ++ m.clientModule ++ ".config import Config",
  "from " ++ m.package ++ " import __version__",
  ""]

def commandLines (names : List String) : List Line :=
  [codeLine "COMMANDS = ("] ++ names.map (fun name => [.code "    ", .quoted name, .code ","])
    ++ codeLines [")", ""]

def applicationLines (m : Meta) : List Line := [
  codeLine "app = typer.Typer(",
  [.code "    name=", .quoted m.command, .code ","],
  [.code "    help=", .quoted m.description, .code ","]]
  ++ codeLines [
    "    no_args_is_help=True,",
    "    add_completion=False,",
    "    rich_markup_mode=None,",
    ")",
    "",
    ""]

def versionLines (m : Meta) : List Line := codeLines [
  "def _version_callback(value: bool) -> None:",
  "    if value:",
  "        typer.echo(f\"" ++ m.command ++ " \x7b__version__\x7d\")",
  "        raise typer.Exit()",
  "",
  "",
  "@app.callback()",
  "def _root(",
  "    version: Optional[bool] = typer.Option(",
  "        None,",
  "        \"--version\",",
  "        callback=_version_callback,",
  "        is_eager=True,",
  "        help=\"Show the version and exit.\",",
  "    ),",
  ") -> None:",
  "    pass",
  "",
  ""]

def clientLines (m : Meta) : List Line := codeLines [
  "def _get_client(token: Optional[str] = None) -> " ++ m.clientClass ++ ":",
  "    endpoint = os.environ.get(ENDPOINT_ENV, DEFAULT_ENDPOINT)",
  "    if token is None:",
  "        return " ++ m.clientClass ++ "(config=Config(endpoint_uri=endpoint))",
  "    return " ++ m.clientClass ++ "(config=Config(endpoint_uri=endpoint, bearer_token=token))"]

def headerLines (m : Meta) (names : List String) : List Line :=
  [[.quoted m.moduleDocumentation]] ++ importLines m
    ++ [[.code "DEFAULT_ENDPOINT = ", .quoted m.endpoint],
      [.code "ENDPOINT_ENV = ", .quoted m.endpointVariable], codeLine ""]
    ++ commandLines names ++ applicationLines m ++ versionLines m ++ clientLines m

def footerLines (m : Meta) : List Line :=
  codeLines ["", "", "def main() -> None:"]
    ++ [[.code "    app(prog_name=", .quoted m.command, .code ")"]]
    ++ codeLines ["", "", "if __name__ == \"__main__\":", "    main()"]

/-- The lines of the module that names the package and its version. -/
def initLines (m : Meta) : List Line := [
  [.quoted m.description], codeLine "", [.code "__version__ = ", .quoted m.version]]

def mainLines (m : Meta) : List Line := codeLines [
  "\"\"\"Allow running as ``python -m " ++ m.package ++ "``.\"\"\"",
  "",
  "from " ++ m.package ++ ".cli import main",
  "",
  "main()"]

end ServiceCli.Package
