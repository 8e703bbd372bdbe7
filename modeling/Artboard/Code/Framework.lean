import Artboard.Code.Flutter
import Artboard.Code.SwiftUi
import Artboard.Code.Tailwind

/-!
# Frameworks

The four output formats: the code of a list of branches, and the file it is wrapped in.
-/

namespace Artboard

inductive Framework
  | html
  | tailwind
  | swiftUi
  | flutter
  deriving DecidableEq, Repr

namespace Framework

def title : Framework → String
  | html => "HTML"
  | tailwind => "Tailwind CSS"
  | swiftUi => "SwiftUI"
  | flutter => "Flutter"

def code (c : Context) (branches : List (Branch Float)) : Framework → String
  | html => Html.body c branches
  | tailwind => Tailwind.body c branches
  | swiftUi => SwiftUi.body c branches
  | flutter => Flutter.body c branches

/-! ## Files -/

def page (headLines : List String) (name body : String) : String :=
  String.join ((
    ["<!DOCTYPE html>", "<html lang=\"en\">", "<head>", "  <meta charset=\"utf-8\">",
      "  <meta name=\"viewport\" content=\"width=device-width, initial-scale=1\">",
      "  <title>" ++ NameStyle.title.apply name ++ "</title>"] ++ headLines ++
    ["</head>", "<body>", "  <div class=\"" ++ NameStyle.kebab.apply name ++ "\">",
      indentLines body 4, "  </div>", "</body>", "</html>"]).map (· ++ "\n"))

def viewFile (name body : String) : String :=
  let type := NameStyle.pascal.apply name
  String.join (
    ["import SwiftUI", "", "struct " ++ type ++ ": View \x7b",
      "    var body: some View \x7b", indentLines body 8, "    \x7d", "\x7d", "", "#if DEBUG",
      "struct " ++ type ++ "_Previews: PreviewProvider \x7b",
      "    static var previews: some View \x7b", "        " ++ type ++ "()", "    \x7d", "\x7d",
      "#endif"].map (· ++ "\n"))

def widgetFile (name body : String) : String :=
  let type := NameStyle.pascal.apply name
  String.join (
    ["import 'dart:ui';", "", "import 'package:flutter/material.dart';", "",
      "class " ++ type ++ " extends StatelessWidget \x7b",
      "  const " ++ type ++ "(\x7bsuper.key\x7d);", "", "  @override",
      "  Widget build(BuildContext context) \x7b", "    return " ++ hangLines body 4 ++ ";",
      "  \x7d", "\x7d"].map (· ++ "\n"))

def file (name body : String) : Framework → String
  | html => page [] name body
  | tailwind => page ["  <script src=\"https://cdn.tailwindcss.com\"></script>"] name body
  | swiftUi => viewFile name body
  | flutter => widgetFile name body

end Framework

end Artboard
