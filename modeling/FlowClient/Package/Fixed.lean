import FlowClient.Package.Basic

/-!
The fixed part of every package: the modules that all generated ones import from.
-/

namespace FlowClient

def lines (texts : List String) : String := String.join (texts.map (· ++ "\n"))

def pipeText : String :=
  lines [
    "// @flow",
    "",
    "import type \x7b AjaxObject \x7d from '../types/AjaxObject';",
    "",
    "export default class AjaxPipe<Req: AjaxObject, Res> \x7b",
    "  method: $PropertyType<Req, 'method'>;",
    "  url: string;",
    "  data: any;",
    "",
    "  constructor(request: Req) \x7b",
    "    Object.keys(request).forEach((key) => \x7b",
    "      (this: any)[key] = request[key];",
    "    \x7d);",
    "  \x7d",
    "",
    "  pipeThrough<T>(handler: (pipe: AjaxPipe<Req, Res>) => T): T \x7b",
    "    return handler(this);",
    "  \x7d",
    "\x7d"]

def queryText : String :=
  lines [
    "// @flow",
    "",
    "export default function makeQuery(params: ?Object): string \x7b",
    "  if (!params) \x7b",
    "    return '';",
    "  \x7d",
    "",
    "  const keys = Object.keys(params);",
    "  if (keys.length === 0) \x7b",
    "    return '';",
    "  \x7d",
    "",
    "  const pairs = keys.map((key) => \x7b",
    "    let value = params[key];",
    "    if (typeof value === 'object') \x7b",
    "      value = JSON.stringify(value);",
    "    \x7d",
    "    return `$\x7bencodeURIComponent(key)\x7d=$\x7bencodeURIComponent(String(value))\x7d`;",
    "  \x7d);",
    "",
    "  return `?$\x7bpairs.join('&')\x7d`;",
    "\x7d"]

def formText : String :=
  lines [
    "// @flow",
    "",
    "const isObject = (value: mixed): boolean => value === Object(value);",
    "",
    "const isFile = (value: mixed): boolean =>",
    "  typeof File !== 'undefined' && value instanceof File;",
    "",
    "export default function makeFormData(",
    "  values: Object,",
    "  formData?: FormData,",
    "  prefix?: string,",
    "): FormData \x7b",
    "  const target = formData || new FormData();",
    "",
    "  Object.keys(values).forEach((prop) => \x7b",
    "    const key = prefix ? `$\x7bprefix\x7d[$\x7bprop\x7d]` : prop;",
    "    const value = values[prop];",
    "",
    "    if (Array.isArray(value)) \x7b",
    "      value.forEach((element) => \x7b",
    "        const arrayKey = `$\x7bkey\x7d[]`;",
    "        if (isObject(element) && !isFile(element)) \x7b",
    "          makeFormData(element, target, arrayKey);",
    "        \x7d else \x7b",
    "          target.append(arrayKey, element);",
    "        \x7d",
    "      \x7d);",
    "    \x7d else if (isObject(value) && !isFile(value)) \x7b",
    "      makeFormData(value, target, key);",
    "    \x7d else \x7b",
    "      target.append(key, value);",
    "    \x7d",
    "  \x7d);",
    "",
    "  return target;",
    "\x7d"]

def requestText : String :=
  lines [
    "// @flow",
    "",
    "export type AjaxObject = \x7b",
    "  method: 'GET' | 'POST' | 'PUT' | 'PATCH' | 'OPTIONS' | 'DELETE',",
    "  url: string,",
    "  data?: any,",
    "\x7d;"]

def runtimeFiles : List File := [
  ⟨"helpers/AjaxPipe.js", pipeText⟩,
  ⟨"helpers/makeQuery.js", queryText⟩,
  ⟨"helpers/makeFormData.js", formText⟩,
  ⟨"types/AjaxObject.js", requestText⟩]

end FlowClient
