import Kdive.Lib.PythonTokens

/-!
# The text of the wrappers

A wrapper is a Python program for the target.  It is a template with placeholders, cut here at the
placeholders: one that stands between quotes is `quoted`, and one that stands in the code is `raw`.
The text between two placeholders is given line by line.
-/

namespace Kdive.Introspect

open PythonTokens (Text)

/-- A placeholder. -/
inductive Field where
  | capsJson
  | callId
  | allowWriteSetup
  | expectedBuildId
  | argsB64
  | userScriptB64
  | vmcorePathB64
  | vmlinuxPathB64
  | modulesPathB64
deriving DecidableEq

/-- A piece of a template. -/
inductive Part where
  | text (lines : List String)
  | quoted (field : Field)
  | raw (field : Field)

/-- Lines with newlines between them. -/
def joinLines (lines : List String) : Text := ['\n'].intercalate (lines.map String.toList)

/-- `_WRAPPER_PROLOGUE_LIVE` -/
def WRAPPER_PROLOGUE_LIVE : List Part := [
  .text [
    "import sys as _li_sys",
    "import json as _li_json",
    "import io as _li_io",
    "import traceback as _li_traceback",
    "import contextlib as _li_contextlib",
    "",
    "_li_caps = "],
  .raw .capsJson,
  .text [
    "",
    "",
    "def _li_truncate(s, cap):",
    "    return (s[:cap], True) if len(s) > cap else (s, False)",
    "",
    "_li_result = \x7b\"call_id\": "],
  .quoted .callId,
  .text [
    ", \"build_id\": None, \"outcome\": None,",
    "              \"emits\": [], \"user_stdout\": \"\", \"prelude_ms\": 0,",
    "              \"truncated\": \x7b\"emits\": False, \"user_stdout\": False,",
    "                            \"traceback\": False, \"total_json\": False,",
    "                            \"per_emit_size\": False, \"error_message\": False\x7d\x7d",
    "",
    "import time as _li_time",
    "_li_t_prelude_start = _li_time.monotonic()",
    "",
    "_li_drgn_version = None",
    "try:",
    "    import drgn  # noqa: E402  -- module attribute, exposed to user namespace",
    "    _li_drgn_version = getattr(drgn, \"__version__\", None)",
    "",
    "    _li_pre_helpers = set(globals().keys()) | \x7b",
    "        \"_li_pre_helpers\", \"_li_drgn_helper_names\",",
    "    \x7d",
    "    from drgn.helpers.linux import *  # noqa: F401,F403,E402",
    "    _li_drgn_helper_names = set(globals().keys()) - _li_pre_helpers",
    "",
    ""],
  .raw .allowWriteSetup,
  .text [
    "",
    "    prog = _li_program_class()",
    "    prog.set_kernel()",
    "    prog.load_default_debug_info()",
    "except Exception as exc:",
    "    msg, msg_trunc = _li_truncate(str(exc), _li_caps[\"error_message\"])",
    "    etype, _ = _li_truncate(type(exc).__name__, _li_caps[\"error_message\"])",
    "    _li_result[\"outcome\"] = \x7b\"status\": \"drgn_open_failure\",",
    "                             \"error_type\": etype,",
    "                             \"error_message\": msg,",
    "                             \"drgn_version\": _li_drgn_version\x7d",
    "    _li_result[\"truncated\"][\"error_message\"] = msg_trunc",
    "    try:",
    "        _li_json.dump(_li_result, _li_sys.stdout)",
    "    finally:",
    "        _li_sys.exit(3)",
    "",
    "_li_result[\"prelude_ms\"] = int((_li_time.monotonic() - _li_t_prelude_start) * 1000)",
    "",
    "# ADR 0039: resolve the build-id first, then split the failure modes. An",
    "# AttributeError is a genuine drgn module-API/version gap (drgn_version_skew);",
    "# any other exception is drgn raising while resolving the module",
    "# (drgn_api_incompatible -- e.g. the drgn >= 0.2 LookupError before discovery).",
    "# A resolved-but-None build-id is provenance_unverifiable, not a .hex()-on-None",
    "# AttributeError misreported as version skew.",
    "try:",
    "    _li_build_id = prog.main_module().build_id",
    "    _li_result[\"build_id\"] = _li_build_id.hex() if _li_build_id else None",
    "except AttributeError as exc:",
    "    msg, msg_trunc = _li_truncate(str(exc), _li_caps[\"error_message\"])",
    "    etype, _ = _li_truncate(type(exc).__name__, _li_caps[\"error_message\"])",
    "    _li_result[\"outcome\"] = \x7b\"status\": \"drgn_version_skew\",",
    "                             \"error_type\": etype,",
    "                             \"error_message\": msg,",
    "                             \"drgn_version\": _li_drgn_version\x7d",
    "    _li_result[\"truncated\"][\"error_message\"] = msg_trunc",
    "    try:",
    "        _li_json.dump(_li_result, _li_sys.stdout)",
    "    finally:",
    "        _li_sys.exit(3)",
    "except Exception as exc:",
    "    msg, msg_trunc = _li_truncate(str(exc), _li_caps[\"error_message\"])",
    "    etype, _ = _li_truncate(type(exc).__name__, _li_caps[\"error_message\"])",
    "    _li_result[\"outcome\"] = \x7b\"status\": \"drgn_api_incompatible\",",
    "                             \"error_type\": etype,",
    "                             \"error_message\": msg,",
    "                             \"drgn_version\": _li_drgn_version\x7d",
    "    _li_result[\"truncated\"][\"error_message\"] = msg_trunc",
    "    try:",
    "        _li_json.dump(_li_result, _li_sys.stdout)",
    "    finally:",
    "        _li_sys.exit(3)",
    "",
    "if _li_result[\"build_id\"] is None:",
    "    _li_result[\"outcome\"] = \x7b\"status\": \"provenance_unverifiable\",",
    "                             \"detail\": \"target reports no build-id\"\x7d",
    "    try:",
    "        _li_json.dump(_li_result, _li_sys.stdout)",
    "    finally:",
    "        _li_sys.exit(4)",
    "",
    "if _li_result[\"build_id\"] != "],
  .quoted .expectedBuildId,
  .text [
    ":",
    "    _li_result[\"outcome\"] = \x7b\"status\": \"provenance_mismatch\",",
    "                             \"expected\": "],
  .quoted .expectedBuildId,
  .text [
    ",",
    "                             \"actual\": _li_result[\"build_id\"]\x7d",
    "    try:",
    "        _li_json.dump(_li_result, _li_sys.stdout)",
    "    finally:",
    "        _li_sys.exit(4)",
    "",
    ""]]

/-- `_WRAPPER_PROLOGUE_VMCORE` -/
def WRAPPER_PROLOGUE_VMCORE : List Part := [
  .text [
    "import sys as _li_sys",
    "import json as _li_json",
    "import io as _li_io",
    "import traceback as _li_traceback",
    "import contextlib as _li_contextlib",
    "import base64 as _li_b64",
    "import os as _li_os",
    "",
    "_li_caps = "],
  .raw .capsJson,
  .text [
    "",
    "",
    "def _li_truncate(s, cap):",
    "    return (s[:cap], True) if len(s) > cap else (s, False)",
    "",
    "_li_result = \x7b\"call_id\": "],
  .quoted .callId,
  .text [
    ", \"build_id\": None, \"outcome\": None,",
    "              \"emits\": [], \"user_stdout\": \"\", \"prelude_ms\": 0, \"warnings\": [],",
    "              \"truncated\": \x7b\"emits\": False, \"user_stdout\": False,",
    "                            \"traceback\": False, \"total_json\": False,",
    "                            \"per_emit_size\": False, \"error_message\": False\x7d\x7d",
    "",
    "_li_vmcore = _li_b64.b64decode("],
  .quoted .vmcorePathB64,
  .text [
    ").decode(\"utf-8\")",
    "_li_vmlinux = _li_b64.b64decode("],
  .quoted .vmlinuxPathB64,
  .text [
    ").decode(\"utf-8\")",
    "_li_modules = _li_b64.b64decode("],
  .quoted .modulesPathB64,
  .text [
    ").decode(\"utf-8\") or None",
    "",
    "import time as _li_time",
    "_li_t_prelude_start = _li_time.monotonic()",
    "",
    "_li_drgn_version = None",
    "try:",
    "    import drgn  # noqa: E402  -- module attribute, exposed to user namespace",
    "    _li_drgn_version = getattr(drgn, \"__version__\", None)",
    "",
    "    _li_pre_helpers = set(globals().keys()) | \x7b",
    "        \"_li_pre_helpers\", \"_li_drgn_helper_names\",",
    "    \x7d",
    "    from drgn.helpers.linux import *  # noqa: F401,F403,E402",
    "    _li_drgn_helper_names = set(globals().keys()) - _li_pre_helpers",
    "",
    "    prog = drgn.Program()",
    "    prog.set_core_dump(_li_vmcore)",
    "except Exception as exc:",
    "    msg, msg_trunc = _li_truncate(str(exc), _li_caps[\"error_message\"])",
    "    etype, _ = _li_truncate(type(exc).__name__, _li_caps[\"error_message\"])",
    "    _li_result[\"outcome\"] = \x7b\"status\": \"drgn_open_failure\",",
    "                             \"error_type\": etype,",
    "                             \"error_message\": msg,",
    "                             \"drgn_version\": _li_drgn_version\x7d",
    "    _li_result[\"truncated\"][\"error_message\"] = msg_trunc",
    "    try:",
    "        _li_json.dump(_li_result, _li_sys.stdout)",
    "    finally:",
    "        _li_sys.exit(3)",
    "",
    "_li_result[\"prelude_ms\"] = int((_li_time.monotonic() - _li_t_prelude_start) * 1000)",
    "",
    "# ADR 0039: drgn >= 0.2 does not create the main module at set_core_dump();",
    "# module discovery (driven by VMCOREINFO) must run before main_module() resolves.",
    "# Best-effort: discovery can warn/raise once it needs kernel debug info, but it",
    "# populates the main module's build-id from VMCOREINFO first. Resolution failures",
    "# split: AttributeError is a genuine drgn module-API/version gap",
    "# (drgn_version_skew); any other exception is drgn raising while resolving the",
    "# module (drgn_api_incompatible -- e.g. LookupError when discovery cannot run).",
    "try:",
    "    try:",
    "        for _li_mod in prog.loaded_modules():",
    "            if _li_mod.name == \"kernel\":",
    "                break",
    "    except Exception:",
    "        pass",
    "    _li_bid = prog.main_module().build_id",
    "    _li_result[\"build_id\"] = _li_bid.hex() if _li_bid else None",
    "except AttributeError as exc:",
    "    msg, msg_trunc = _li_truncate(str(exc), _li_caps[\"error_message\"])",
    "    etype, _ = _li_truncate(type(exc).__name__, _li_caps[\"error_message\"])",
    "    _li_result[\"outcome\"] = \x7b\"status\": \"drgn_version_skew\",",
    "                             \"error_type\": etype,",
    "                             \"error_message\": msg,",
    "                             \"drgn_version\": _li_drgn_version\x7d",
    "    _li_result[\"truncated\"][\"error_message\"] = msg_trunc",
    "    try:",
    "        _li_json.dump(_li_result, _li_sys.stdout)",
    "    finally:",
    "        _li_sys.exit(3)",
    "except Exception as exc:",
    "    msg, msg_trunc = _li_truncate(str(exc), _li_caps[\"error_message\"])",
    "    etype, _ = _li_truncate(type(exc).__name__, _li_caps[\"error_message\"])",
    "    _li_result[\"outcome\"] = \x7b\"status\": \"drgn_api_incompatible\",",
    "                             \"error_type\": etype,",
    "                             \"error_message\": msg,",
    "                             \"drgn_version\": _li_drgn_version\x7d",
    "    _li_result[\"truncated\"][\"error_message\"] = msg_trunc",
    "    try:",
    "        _li_json.dump(_li_result, _li_sys.stdout)",
    "    finally:",
    "        _li_sys.exit(3)",
    "",
    "if _li_result[\"build_id\"] is None:",
    "    _li_result[\"outcome\"] = \x7b\"status\": \"provenance_unverifiable\",",
    "                             \"detail\": \"vmcore carries no embedded build-id\"\x7d",
    "    try:",
    "        _li_json.dump(_li_result, _li_sys.stdout)",
    "    finally:",
    "        _li_sys.exit(4)",
    "",
    "if _li_result[\"build_id\"] != "],
  .quoted .expectedBuildId,
  .text [
    ":",
    "    _li_result[\"outcome\"] = \x7b\"status\": \"provenance_mismatch\",",
    "                             \"expected\": "],
  .quoted .expectedBuildId,
  .text [
    ",",
    "                             \"actual\": _li_result[\"build_id\"]\x7d",
    "    try:",
    "        _li_json.dump(_li_result, _li_sys.stdout)",
    "    finally:",
    "        _li_sys.exit(4)",
    "",
    "try:",
    "    prog.load_debug_info([_li_vmlinux])",
    "except Exception as exc:",
    "    msg, msg_trunc = _li_truncate(str(exc), _li_caps[\"error_message\"])",
    "    etype, _ = _li_truncate(type(exc).__name__, _li_caps[\"error_message\"])",
    "    _li_result[\"outcome\"] = \x7b\"status\": \"drgn_open_failure\",",
    "                             \"error_type\": etype,",
    "                             \"error_message\": msg\x7d",
    "    _li_result[\"truncated\"][\"error_message\"] = msg_trunc",
    "    try:",
    "        _li_json.dump(_li_result, _li_sys.stdout)",
    "    finally:",
    "        _li_sys.exit(3)",
    "",
    "if _li_modules:",
    "    _li_ko = []",
    "    for _li_dir, _, _li_files in _li_os.walk(_li_modules):",
    "        for _li_name in _li_files:",
    "            if _li_name.endswith(\".ko.debug\"):",
    "                _li_ko.append(_li_os.path.join(_li_dir, _li_name))",
    "    if not _li_ko:",
    "        for _li_dir, _, _li_files in _li_os.walk(_li_modules):",
    "            for _li_name in _li_files:",
    "                if _li_name.endswith(\".ko\"):",
    "                    _li_ko.append(_li_os.path.join(_li_dir, _li_name))",
    "    if not _li_ko:",
    "        _li_result[\"warnings\"].append(\x7b\"code\": \"modules_debuginfo_empty\"\x7d)",
    "    else:",
    "        _li_loaded = 0",
    "        for _li_path in _li_ko:",
    "            try:",
    "                prog.load_debug_info([_li_path])",
    "                _li_loaded += 1",
    "            except Exception:",
    "                pass",
    "        _li_result[\"warnings\"].append(",
    "            \x7b\"code\": \"modules_debuginfo_loaded\" if _li_loaded else \"modules_debuginfo_load_failed\",",
    "             \"count\": _li_loaded, \"found\": len(_li_ko)\x7d)",
    "",
    ""]]

/-- `_WRAPPER_BODY` -/
def WRAPPER_BODY : List Part := [
  .text [
    "class _li_WriteModeDisabled(Exception):",
    "    pass",
    "",
    "_li_emit_buffer = []",
    "_li_emit_overflow = False",
    "",
    "def emit(obj):",
    "    global _li_emit_overflow",
    "    if len(_li_emit_buffer) >= _li_caps[\"emits\"]:",
    "        _li_emit_overflow = True",
    "        return",
    "    try:",
    "        encoded = _li_json.dumps(obj)",
    "    except (TypeError, ValueError) as exc:",
    "        _li_emit_buffer.append(\x7b",
    "            \"__emit_unserializable__\": True,",
    "            \"error_type\": type(exc).__name__,",
    "            \"error_message\": str(exc)[:512],",
    "            \"repr\": repr(obj)[:512],",
    "        \x7d)",
    "        return",
    "    if len(encoded) > _li_caps[\"per_emit_bytes\"]:",
    "        _li_result[\"truncated\"][\"per_emit_size\"] = True",
    "        _li_emit_buffer.append(\x7b",
    "            \"__emit_oversized__\": True,",
    "            \"size_bytes\": len(encoded),",
    "            \"cap_bytes\": _li_caps[\"per_emit_bytes\"],",
    "            \"head\": encoded[:1024],",
    "        \x7d)",
    "        return",
    "    _li_emit_buffer.append(obj)",
    "",
    "user_stdout = _li_io.StringIO()",
    "namespace = \x7b",
    "    \"prog\": prog, \"emit\": emit, \"drgn\": drgn,",
    "    \"__name__\": \"__introspect__\", \"__builtins__\": __builtins__,",
    "\x7d",
    "for name in _li_drgn_helper_names:",
    "    namespace[name] = globals()[name]",
    "",
    "import base64 as _li_base64",
    "namespace[\"args\"] = _li_json.loads(_li_base64.b64decode("],
  .quoted .argsB64,
  .text [
    ").decode(\"utf-8\"))",
    "USER_SCRIPT_B64 = "],
  .quoted .userScriptB64,
  .text [
    "",
    "try:",
    "    compiled = compile(",
    "        _li_base64.b64decode(USER_SCRIPT_B64).decode(\"utf-8\"),",
    "        \"<introspect>\", \"exec\",",
    "    )",
    "except SyntaxError as exc:",
    "    msg, msg_trunc = _li_truncate(str(exc), _li_caps[\"error_message\"])",
    "    _li_result[\"outcome\"] = \x7b\"status\": \"script_compile_error\",",
    "                             \"error_type\": \"SyntaxError\",",
    "                             \"error_message\": msg\x7d",
    "    _li_result[\"truncated\"][\"error_message\"] = msg_trunc",
    "    try:",
    "        _li_json.dump(_li_result, _li_sys.stdout)",
    "    finally:",
    "        _li_sys.exit(5)",
    "",
    "with _li_contextlib.redirect_stdout(user_stdout):",
    "    try:",
    "        exec(compiled, namespace)",
    "        _li_result[\"outcome\"] = \x7b\"status\": \"ok\"\x7d",
    "    except _li_WriteModeDisabled as exc:",
    "        msg, msg_trunc = _li_truncate(str(exc), _li_caps[\"error_message\"])",
    "        _li_result[\"outcome\"] = \x7b\"status\": \"write_mode_disabled\",",
    "                                 \"error_message\": msg\x7d",
    "        _li_result[\"truncated\"][\"error_message\"] = msg_trunc",
    "    except BaseException as exc:",
    "        tb, tb_trunc = _li_truncate(_li_traceback.format_exc(), _li_caps[\"traceback\"])",
    "        msg, msg_trunc = _li_truncate(str(exc), _li_caps[\"error_message\"])",
    "        etype, _ = _li_truncate(type(exc).__name__, _li_caps[\"error_message\"])",
    "        _li_result[\"outcome\"] = \x7b\"status\": \"error\",",
    "                                 \"error_type\": etype,",
    "                                 \"error_message\": msg, \"traceback\": tb\x7d",
    "        _li_result[\"truncated\"][\"traceback\"] = tb_trunc",
    "        _li_result[\"truncated\"][\"error_message\"] = msg_trunc",
    "",
    "try:",
    "    _li_result[\"emits\"] = _li_emit_buffer",
    "    _li_result[\"truncated\"][\"emits\"] = _li_emit_overflow",
    "    out, trunc = _li_truncate(user_stdout.getvalue(), _li_caps[\"user_stdout\"])",
    "    _li_result[\"user_stdout\"] = out",
    "    _li_result[\"truncated\"][\"user_stdout\"] = trunc",
    "",
    "    payload = _li_json.dumps(_li_result)",
    "    while len(payload) > _li_caps[\"total_json\"] and _li_result[\"emits\"]:",
    "        _li_result[\"emits\"].pop()",
    "        _li_result[\"truncated\"][\"total_json\"] = True",
    "        payload = _li_json.dumps(_li_result)",
    "    if len(payload) > _li_caps[\"total_json\"]:",
    "        _li_result[\"user_stdout\"] = \"\"",
    "        _li_result[\"truncated\"][\"user_stdout\"] = True",
    "        payload = _li_json.dumps(_li_result)",
    "    _li_sys.stdout.write(payload)",
    "except BaseException as exc:",
    "    try:",
    "        _li_sys.stdout.write(_li_json.dumps(\x7b",
    "            \"call_id\": _li_result.get(\"call_id\"),",
    "            \"outcome\": \x7b\"status\": \"wrapper_internal_error\",",
    "                        \"error_type\": type(exc).__name__,",
    "                        \"error_message\": str(exc)[:_li_caps[\"error_message\"]]\x7d,",
    "            \"truncated\": \x7b\"wrapper_internal_error\": True\x7d,",
    "            \"build_id\": _li_result.get(\"build_id\"),",
    "            \"emits\": [], \"user_stdout\": \"\",",
    "        \x7d))",
    "    except BaseException:",
    "        pass",
    "finally:",
    "    _li_sys.exit(6)",
    ""]]

/-- `WRAPPER_TEMPLATE` -/
def WRAPPER_TEMPLATE : List Part := WRAPPER_PROLOGUE_LIVE ++ WRAPPER_BODY

/-- `VMCORE_WRAPPER_TEMPLATE` -/
def VMCORE_WRAPPER_TEMPLATE : List Part := WRAPPER_PROLOGUE_VMCORE ++ WRAPPER_BODY

/-- `_ALLOW_WRITE_SETUP_GUARDED` -/
def ALLOW_WRITE_SETUP_GUARDED : Text := joinLines [
  "    class _li_GuardedProgram(drgn.Program):",
  "        def write(self, *_li_a, **_li_k):",
  "            raise _li_WriteModeDisabled('allow_write is false; drgn write APIs are disabled')",
  "    _li_program_class = _li_GuardedProgram"]

/-- `_ALLOW_WRITE_SETUP_PLAIN` -/
def ALLOW_WRITE_SETUP_PLAIN : Text := "    _li_program_class = drgn.Program".toList

end Kdive.Introspect
