import NarseseDialects.CommandLine.Options

namespace NarseseDialects.CommandLine

def choiceText (f : Flag) : Text := "\x7b" ++ Text.join "," f.choices ++ "\x7d"

def usage : Text :=
  Text.join "\n"
    ["usage: narsese [-h] [-f FILE] [-s " ++ choiceText .source ++ "]",
      "               [-t " ++ choiceText .target ++ "] [-l]",
      "               [-k " ++ choiceText .kind ++ "] [-v]",
      "               [narsese ...]",
      ""]

def choiceForms (f : Flag) : Text :=
  "  " ++ ['-', f.letter, ' '] ++ choiceText f ++ ", " ++ f.longForm ++ " " ++ choiceText f

def help : Text :=
  usage ++ "\n" ++
    Text.join "\n"
      ["Batch translator between notations of Narsese.",
        "",
        "positional arguments:",
        "  narsese               try \"<A --> B>.\" for example.",
        "",
        "options:",
        "  -h, --help            show this help message and exit",
        "  -f FILE, --file FILE  Translate each non-blank line of this file.",
        choiceForms .source,
        "                        Notation of the input. (Default: ascii)",
        choiceForms .target,
        "                        Notation of the output. (Default: ascii)",
        "  -l, --lexical         Read only the lexical structure; assign no meaning",
        "                        unless the target needs it.",
        choiceForms .kind,
        "                        Insist that every item be this kind of Narsese.",
        "  -v, --verbose         Mention each item as it goes by.",
        ""]

def introduction : Text :=
  "This is a batch translator between notations of Narsese.\n\n" ++ usage ++
    Text.join "\n"
      ["",
        "",
        "For example:",
        "",
        "    narsese \"<A --> B>. %1.0;0.9%\"",
        "",
        "will echo the sentence back in canonical ASCII form, or else try to explain why not.",
        "",
        "    narsese -t han -f tasks.nal",
        "",
        "will translate every line of tasks.nal into Han notation.",
        "",
        "    narsese -t tree \"<(*, A, B) --> R>?\"",
        "",
        "will show the structure of the question.",
        "",
        "    narsese -h",
        "",
        "will explain all the arguments.",
        ""]

end NarseseDialects.CommandLine
