/-! Modules for arguments of commands, for notes about what happens, for the places that
exceptions came through, for lines of files, for warnings, in the language of scripts. -/
namespace Flowboard.Script.Prelude

/-- The module for arguments of commands. -/
def argparseText : String := r#"
| import os as _os, re as _re, sys as _sys
| SUPPRESS, OPTIONAL, ZERO_OR_MORE, ONE_OR_MORE = ('==SUPPRESS==', '?', '*', '+')
| PARSER, REMAINDER, _LEFT = ('A...', '...', '_unrecognized_args')

| class _Shown:

|     def __repr__(self):
|         parts, rest = ([], «»)
|         for name, value in self._get_kwargs():
|             if name.isidentifier():
|                 parts.append('%s=%r' % (name, value))
|             else:
|                 rest[name] = value
|         return '%s(%s)' % (type(self).__name__, ', '.join(parts + (['**%r' % rest] if rest
|             else [])))

|     def _get_kwargs(self):
|         return [(n, getattr(self, n))
|             for n in self._names] if self._names else list(self.__dict__.items())
|     _names = ()

| class HelpFormatter:

|     def __init__(self, prog, indent_increment=2, max_help_position=24, width=None):
|         if width is None:
|             width = __import__('shutil').get_terminal_size().columns - 2
|         self._prog, self._step, self._width = (prog, indent_increment, width)
|         self._most = min(max_help_position, max(width - 20, indent_increment * 2))
|         self._current_indent = self._longest = 0
|         self._items, self._outer = ([], [])

|     def add_usage(self, usage, actions, groups, prefix=None):
|         if usage is not SUPPRESS:
|             self._items.append(lambda: self._format_usage(usage, actions, groups, prefix))

|     def format_help(self):
|         text = _re.sub('\\n\\n\\n+', '\n\n', ''.join([item() for item in self._items]))
|         return text and text.strip('\n') + '\n'

|     def _format_usage(self, usage, actions, groups, prefix):
|         if prefix is None:
|             prefix = 'usage: '
|         prog = '%s' % self._prog
|         if usage is not None:
|             usage = usage % dict(prog=prog)
|         elif not actions:
|             usage = prog
|         else:
|             kinds = [[a for a in actions if a.option_strings], [a for a in actions
|                 if not a.option_strings]]
|             format = self._format_actions_usage
|             usage = ' '.join([s for s in [prog, format(kinds[0] + kinds[1], groups)] if s])
|             width = self._width - self._current_indent
|             if len(prefix) + len(usage) > width:
|                 options, places = [_re.findall('\\(.*?\\)+(?=\\s|$)|\\[.*?\\]+(?=\\s|$)|\\S+',
|                     format(kind, groups)) for kind in kinds]
|                 if len(prefix) + len(prog) <= 0.75 * width:
|                     indent = ' ' * (len(prefix) + len(prog) + 1)
|                     if options:
|                         out = lines([prog] + options, indent, prefix) + lines(places, indent)
|                     else:
|                         out = lines([prog] + places, indent, prefix) if places else [prog]
|                 else:
|                     indent = ' ' * len(prefix)
|                     out = lines(options + places, indent)
|                     if len(out) > 1:
|                         out = lines(options, indent) + lines(places, indent)
|                     out = [prog] + out
|                 usage = '\n'.join(out)
|         return '%s%s\n\n' % (prefix, usage)

|     def _format_actions_usage(self, actions, groups):
|         grouped, inserts = (set(), «»)
|         for group in groups:
|             held = group._group_actions
|             if not held:
|                 raise ValueError(f'empty group «group»')
|             if held[0] not in actions:
|                 continue
|             start = actions.index(held[0])
|             end = start + len(held)
|             if actions[start:end] == held:
|                 grouped.update(held)
|                 shown = sum([a.help is not SUPPRESS for a in held])
|                 if not shown:
|                     continue
|                 if not group.required or shown > 1:
|                     marks = '()' if group.required else '[]'
|                     inserts[start] = inserts[start] + ' ' + marks[0] if start in inserts else marks[0]
|                     inserts[end] = inserts.get(end, '') + marks[1]
|                 for i in range(start + 1, end):
|                     inserts[i] = '|'
|         parts = []
|         for i, action in enumerate(actions):
|             if action.help is SUPPRESS:
|                 part = None
|                 if inserts.get(i) == '|':
|                     inserts.pop(i)
|                 elif inserts.get(i + 1) == '|':
|                     inserts.pop(i + 1)
|             elif not action.option_strings:
|                 part = self._format_args(action,
|                     self._get_default_metavar_for_positional(action))
|                 if action in grouped and part[0] == '[' and (part[-1] == ']'):
|                     part = part[1:-1]
|             else:
|                 part = action.format_usage() if action.nargs == 0 else '%s %s' % (action.option_strings[0], self._format_args(action, self._get_default_metavar_for_optional(action)))
|                 if not action.required and action not in grouped:
|                     part = '[%s]' % part
|             parts.append(part)
|         for i in sorted(inserts, reverse=True):
|             parts[i:i] = [inserts[i]]
|         text = _re.sub('([\\[(]) ', '\\1', ' '.join([p for p in parts if p is not None]))
|         return _re.sub('[\\[(] *[\\])]', '', _re.sub(' ([\\])])', '\\1', text)).strip()

|     def _metavar_formatter(self, action, default_metavar):
|         result = action.metavar
|         if result is None:
|             result = default_metavar if action.choices is None else '«%s»' % ','.join([str(c)
|                 for c in action.choices])
|         return lambda n: result if isinstance(result, tuple) else (result,) * n

|     def _format_args(self, action, default_metavar):
|         metavar, n = (self._metavar_formatter(action, default_metavar), action.nargs)
|         if n == ZERO_OR_MORE:
|             found = metavar(1)
|             return ('[%s [%s ...]]' if len(found) == 2 else '[%s ...]') % found
|         if n == ONE_OR_MORE:
|             return '%s [%s ...]' % metavar(2)
|         if n in (None, OPTIONAL, PARSER):
|             return «None: '%s', OPTIONAL: '[%s]', PARSER: '%s ...'»[n] % metavar(1)
|         if n in (REMAINDER, SUPPRESS):
|             return '...' if n == REMAINDER else ''
|         if not isinstance(n, int):
|             raise ValueError('invalid nargs value')
|         return ' '.join(['%s'] * n) % metavar(n)

|     def _get_default_metavar_for_optional(self, action):
|         return action.dest.upper()

|     def _get_default_metavar_for_positional(self, action):
|         return action.dest

| def _get_action_name(argument):
|     if argument is None:
|         return None
|     if argument.option_strings:
|         return '/'.join(argument.option_strings)
|     for name in (argument.metavar, argument.dest):
|         if name not in (None, SUPPRESS):
|             return name
|     return '«' + ','.join(argument.choices) + '»' if argument.choices else None

| class ArgumentError(Exception):

|     def __init__(self, argument, message):
|         self.argument_name = _get_action_name(argument)
|         self.message = message

|     def __str__(self):
|         if self.argument_name is None:
|             return str(self.message)
|         return 'argument %s: %s' % (self.argument_name, self.message)

| class ArgumentTypeError(Exception):
|     pass

| class Action(_Shown):
|     _names = ('option_strings', 'dest', 'nargs', 'const', 'default', 'type', 'choices',
|         'required', 'help', 'metavar')

|     def __init__(self, option_strings, dest, nargs=None, const=None, default=None, type=None,
|         choices=None, required=False, help=None, metavar=None):
|         for name, value in zip(self._names, (option_strings, dest, nargs, const, default, type,
|             choices, required, help, metavar)):
|             setattr(self, name, value)

|     def format_usage(self):
|         return self.option_strings[0]

| class _StoreAction(Action):
|     _kind = 'store'
|     _instead = 'you have nothing to store, actions such as store true or store const'

|     def __init__(self, option_strings, dest, nargs=None, const=None, *args, **kwargs):
|         if nargs == 0:
|             raise ValueError('nargs for %s actions must be != 0; if %s may be more appropriate'
|                 % (self._kind, self._instead))
|         if const is not None and nargs != OPTIONAL:
|             raise ValueError('nargs must be %r to supply const' % OPTIONAL)
|         super().__init__(option_strings, dest, nargs, const, *args, **kwargs)

|     def __call__(self, parser, namespace, values, option_string=None):
|         setattr(namespace, self.dest, values)

| class _StoreConstAction(Action):
|     pass

| class _StoreTrueAction(_StoreConstAction):
|     pass

| class _StoreFalseAction(_StoreConstAction):
|     pass

| class _AppendAction(_StoreAction):
|     _kind = 'append'
|     _instead = 'arg strings are not supplying the value to append, the append const action'

| class _ExtendAction(_AppendAction):
|     pass

| class _AppendConstAction(_StoreConstAction):
|     pass

| class _CountAction(Action):

|     def __init__(self, option_strings, dest, default=None, required=False, help=None):
|         super().__init__(option_strings, dest, 0, None, default, required=required, help=help)

|     def __call__(self, parser, namespace, values, option_string=None):
|         setattr(namespace, self.dest, (getattr(namespace, self.dest, None) or 0) + 1)

| class _HelpAction(Action):

|     def __init__(self, option_strings, dest=SUPPRESS, default=SUPPRESS, help=None):
|         super().__init__(option_strings, dest, 0, None, default, help=help)

| class _VersionAction(Action):
|     pass

| class _SubParsersAction(Action):
|     pass

| class FileType:
|     pass

| class Namespace(_Shown):

|     def __init__(self, **kwargs):
|         for name in kwargs:
|             setattr(self, name, kwargs[name])
| _NEGATIVE = _re.compile('^-\\d+$|^-\\d*\\.\\d+$')

| class _ActionsContainer:

|     def __init__(self, description, prefix_chars, argument_default, conflict_handler):
|         self.description, self.argument_default = (description, argument_default)
|         self.prefix_chars, self.conflict_handler = (prefix_chars, conflict_handler)
|         kinds = dict(store=_StoreAction, store_const=_StoreConstAction,
|             store_true=_StoreTrueAction, store_false=_StoreFalseAction, append=_AppendAction,
|             append_const=_AppendConstAction, count=_CountAction, help=_HelpAction,
|             version=_VersionAction, parsers=_SubParsersAction, extend=_ExtendAction)
|         kinds[None] = _StoreAction
|         self._registries = «'action': kinds, 'type': «None: lambda string: string»»
|         if conflict_handler not in ('error', 'resolve'):
|             raise ValueError('invalid conflict_resolution value: %r' % conflict_handler)
|         self._actions, self._option_string_actions, self._defaults = ([], «», «»)
|         self._action_groups, self._mutually_exclusive_groups = ([], [])
|         self._has_negative_number_optionals = []

|     def _registered(self, kind, value):
|         return self._registries[kind].get(value, value)

|     def add_argument(self, *args, **kwargs):
|         if not args or (len(args) == 1 and args[0][0] not in self.prefix_chars):
|             if args and 'dest' in kwargs:
|                 raise ValueError('dest supplied twice for positional argument')
|             kwargs = self._get_positional_kwargs(*args, **kwargs)
|         else:
|             kwargs = self._get_optional_kwargs(*args, **kwargs)
|         if 'default' not in kwargs:
|             if kwargs['dest'] in self._defaults:
|                 kwargs['default'] = self._defaults[kwargs['dest']]
|             elif self.argument_default is not None:
|                 kwargs['default'] = self.argument_default
|         kind = self._registered('action', kwargs.pop('action', None))
|         if not callable(kind):
|             raise ValueError('unknown action "%s"' % (kind,))
|         action = kind(**kwargs)
|         made = self._registered('type', action.type)
|         if not callable(made):
|             raise ValueError('%r is not callable' % (made,))
|         if made is FileType:
|             raise ValueError('%r is a FileType class object, instance of it must be passed'
|                 % (made,))
|         if hasattr(self, '_get_formatter'):
|             try:
|                 self._get_formatter()._format_args(action, None)
|             except TypeError:
|                 raise ValueError('length of metavar tuple does not match nargs')
|         return self._add_action(action)

|     def add_argument_group(self, *args, **kwargs):
|         group = _ArgumentGroup(self, *args, **kwargs)
|         self._action_groups.append(group)
|         return group

|     def _add_action(self, action):
|         clashes = [s for s in action.option_strings if s in self._option_string_actions]
|         if clashes and self.conflict_handler == 'error':
|             raise ArgumentError(action, 'conflicting option string%s: %s'
|                 % ('s' * (len(clashes) > 1), ', '.join(clashes)))
|         for s in clashes:
|             old = self._option_string_actions.pop(s)
|             old.option_strings.remove(s)
|             if not old.option_strings:
|                 old.container._remove_action(old)
|         self._actions.append(action)
|         action.container = self
|         for s in action.option_strings:
|             self._option_string_actions[s] = action
|             if _NEGATIVE.match(s):
|                 self._has_negative_number_optionals.append(True)
|         return action

|     def _get_positional_kwargs(self, dest, **kwargs):
|         if 'required' in kwargs:
|             raise TypeError("'required' is an invalid argument for positionals")
|         n = kwargs.get('nargs')
|         if n not in (OPTIONAL, ZERO_OR_MORE) or (n == ZERO_OR_MORE and 'default' not in kwargs):
|             kwargs['required'] = True
|         return dict(kwargs, dest=dest, option_strings=[])

|     def _get_optional_kwargs(self, *args, **kwargs):
|         chars = self.prefix_chars
|         for s in args:
|             if s[0] not in chars:
|                 raise ValueError('invalid option string %r: must start with a character %r'
|                     % (s, chars))
|         dest = kwargs.pop('dest', None)
|         if dest is None:
|             long = [s for s in args if len(s) > 1 and s[1] in chars]
|             dest = (long or args)[0].lstrip(chars)
|             if not dest:
|                 raise ValueError('dest= is required for options like %r' % s)
|             dest = dest.replace('-', '_')
|         return dict(kwargs, dest=dest, option_strings=list(args))

| class _ArgumentGroup(_ActionsContainer):

|     def __init__(self, container, title=None, description=None, **kwargs):
|         for name in ('conflict_handler', 'prefix_chars', 'argument_default'):
|             kwargs.setdefault(name, getattr(container, name))
|         super().__init__(description, **kwargs)
|         self.title, self._group_actions = (title, [])
|         for name in ('_registries', '_actions', '_option_string_actions', '_defaults',
|             '_has_negative_number_optionals', '_mutually_exclusive_groups'):
|             setattr(self, name, getattr(container, name))

|     def _add_action(self, action):
|         super()._add_action(action)
|         self._group_actions.append(action)
|         return action

| class ArgumentParser(_Shown, _ActionsContainer):
|     _names = ('prog', 'usage', 'description', 'formatter_class', 'conflict_handler', 'add_help')

|     def __init__(self, prog=None, usage=None, description=None, epilog=None, parents=[],
|         formatter_class=HelpFormatter, prefix_chars='-', fromfile_prefix_chars=None,
|         argument_default=None, conflict_handler='error', add_help=True, allow_abbrev=True,
|         exit_on_error=True):
|         _ActionsContainer.__init__(self, description, prefix_chars, argument_default,
|             conflict_handler)
|         self.prog = _os.path.basename(_sys.argv[0]) if prog is None else prog
|         self.usage, self.epilog, self.formatter_class = (usage, epilog, formatter_class)
|         self.fromfile_prefix_chars, self.add_help = (fromfile_prefix_chars, add_help)
|         self.allow_abbrev, self.exit_on_error = (allow_abbrev, exit_on_error)
|         self._positionals = self.add_argument_group('positional arguments')
|         self._optionals = self.add_argument_group('options')
|         self._subparsers = None
|         mark = '-' if '-' in prefix_chars else prefix_chars[0]
|         if add_help:
|             self.add_argument(mark + 'h', mark * 2 + 'help', action='help', default=SUPPRESS,
|                 help='show this help message and exit')
|         for parent in parents:
|             self._add_container_actions(parent)
|             self._defaults.update(parent._defaults)

|     def _add_action(self, action):
|         return (self._optionals if action.option_strings
|             else self._positionals)._add_action(action)

|     def _get_positional_actions(self):
|         return [a for a in self._actions if not a.option_strings]

|     def parse_args(self, args=None, namespace=None):
|         found, rest = self.parse_known_args(args, namespace)
|         if rest:
|             self.error('unrecognized arguments: %s' % ' '.join(rest))
|         return found

|     def parse_known_args(self, args=None, namespace=None):
|         args = _sys.argv[1:] if args is None else list(args)
|         if namespace is None:
|             namespace = Namespace()
|         for a in self._actions:
|             if a.dest is not SUPPRESS and a.default is not SUPPRESS and (not hasattr(namespace,
|                 a.dest)):
|                 setattr(namespace, a.dest, a.default)
|         for dest in self._defaults:
|             if not hasattr(namespace, dest):
|                 setattr(namespace, dest, self._defaults[dest])
|         try:
|             namespace, args = self._parse_known_args(args, namespace)
|         except ArgumentError as err:
|             if not self.exit_on_error:
|                 raise
|             self.error(str(err))
|         if hasattr(namespace, _LEFT):
|             args.extend(getattr(namespace, _LEFT))
|             delattr(namespace, _LEFT)
|         return (namespace, args)

|     def _parse_known_args(self, args, namespace):
|         if self.fromfile_prefix_chars is not None:
|             args = self._read_args_from_files(args)
|         clashes = «»
|         for group in self._mutually_exclusive_groups:
|             for a in group._group_actions:
|                 clashes.setdefault(a, []).extend([b for b in group._group_actions
|                     if b is not a])
|         options, shape = («», '')
|         for i, arg in enumerate(args):
|             if '-' in shape:
|                 shape += 'A'
|             elif arg == '--':
|                 shape += '-'
|             else:
|                 found = self._parse_optional(arg)
|                 if found is not None:
|                     options[i] = found
|                 shape += 'A' if found is None else 'O'
|         seen, given, extras, places = (set(), set(), [], self._get_positional_actions())

|         def take(action, strings, option=None):
|             seen.add(action)
|             values = self._get_values(action, strings)
|             if values is not action.default:
|                 given.add(action)
|                 for other in clashes.get(action, ()):
|                     if other in given:
|                         raise ArgumentError(action, 'not allowed with argument %s'
|                             % _get_action_name(other))
|             if values is not SUPPRESS:
|                 action(self, namespace, values, option)

|         def option_at(i):
|             action, option, explicit = options[i]
|             todo = []
|             while True:
|                 if action is None:
|                     extras.append(args[i])
|                     return i + 1
|                 stop = i + 1
|                 if explicit is None:
|                     stop += self._match_argument(action, shape[stop:])
|                     todo.append((action, args[i + 1:stop], option))
|                     break
|                 n = self._match_argument(action, 'A')
|                 if n == 1:
|                     todo.append((action, [explicit], option))
|                     break
|                 following = option[0] + explicit[:1]
|                 if n or option[1] in self.prefix_chars or following not in self._option_string_actions:
|                     raise ArgumentError(action, 'ignored explicit argument %r' % explicit)
|                 todo.append((action, [], option))
|                 action, option = (self._option_string_actions[following], following)
|                 explicit = explicit[1:] or None
|             for step in todo:
|                 take(*step)
|             return stop

|         def places_at(i):
|             counts = self._match_arguments_partial(places, shape[i:])
|             for action, n in zip(places[:], counts):
|                 i += n
|                 take(action, args[i - n:i])
|             del places[:len(counts)]
|             return i
|         i, last = (0, max(options, default=-1))
|         while i <= last:
|             following = min([k for k in options if k >= i])
|             if i != following:
|                 stop = places_at(i)
|                 if stop > i:
|                     i = stop
|                     continue
|             if i not in options:
|                 extras.extend(args[i:following])
|                 i = following
|             i = option_at(i)
|         extras.extend(args[places_at(i):])
|         needed = []
|         for a in self._actions:
|             if a not in seen:
|                 if a.required:
|                     needed.append(_get_action_name(a))
|                 elif isinstance(a.default, str) and a.default is getattr(namespace, a.dest,
|                     None):
|                     setattr(namespace, a.dest, self._get_value(a, a.default))
|         if needed:
|             self.error('the following arguments are required: %s' % ', '.join(needed))
|         for group in self._mutually_exclusive_groups:
|             if group.required and (not any([a in given for a in group._group_actions])):
|                 self.error('one of the arguments %s is required'
|                     % ' '.join([_get_action_name(a) for a in group._group_actions
|                     if a.help is not SUPPRESS]))
|         return (namespace, extras)

|     def _match_argument(self, action, shape):
|         found = _re.match(self._get_nargs_pattern(action), shape)
|         if found is None:
|             n = action.nargs
|             raise ArgumentError(action, «None: 'expected one argument',
|                 OPTIONAL: 'expected at most one argument',
|                 ONE_OR_MORE: 'expected at least one argument'».get(n)
|                 or 'expected %s argument%s' % (n, '' if n == 1 else 's'))
|         return len(found.group(1))

|     def _match_arguments_partial(self, actions, shape):
|         for i in range(len(actions), 0, -1):
|             found = _re.match(''.join([self._get_nargs_pattern(a) for a in actions[:i]]), shape)
|             if found is not None:
|                 return [len(s) for s in found.groups()]
|         return []

|     def _parse_optional(self, arg):
|         if not arg or arg[0] not in self.prefix_chars:
|             return None
|         known = self._option_string_actions
|         if arg in known:
|             return (known[arg], arg, None)
|         if len(arg) == 1:
|             return None
|         option, sep, explicit = arg.partition('=')
|         if sep and option in known:
|             return (known[option], option, explicit)
|         found = self._get_option_tuples(arg)
|         if len(found) > 1:
|             self.error('ambiguous option: %s could match %s' % (arg, ', '.join([f[1]
|                 for f in found])))
|         if found:
|             return found[0]
|         if _NEGATIVE.match(arg) and (not self._has_negative_number_optionals) or ' ' in arg:
|             return None
|         return (None, arg, None)

|     def _get_option_tuples(self, arg):
|         result = []
|         if arg[1] in self.prefix_chars:
|             if self.allow_abbrev:
|                 start, sep, explicit = arg.partition('=')
|                 result = [(a, s, explicit if sep else None) for s,
|                     a in self._option_string_actions.items() if s.startswith(start)]
|         else:
|             for s, a in self._option_string_actions.items():
|                 if s == arg[:2]:
|                     result.append((a, s, arg[2:]))
|                 elif s.startswith(arg):
|                     result.append((a, s, None))
|         return result

|     def _get_nargs_pattern(self, action):
|         n = action.nargs
|         shape = «None: '(-*A-*)', OPTIONAL: '(-*A?-*)', ZERO_OR_MORE: '(-*[A-]*)',
|             ONE_OR_MORE: '(-*A[A-]*)', REMAINDER: '([-AO]*)', PARSER: '(-*A[-AO]*)',
|             SUPPRESS: '(-*-*)'».get(n)
|         if shape is None:
|             shape = '(-*%s-*)' % '-*'.join('A' * n)
|         return shape.replace('-*', '').replace('-', '') if action.option_strings else shape

|     def _get_values(self, action, strings):
|         n = action.nargs
|         if n not in (PARSER, REMAINDER) and '--' in strings:
|             strings.remove('--')
|         if not strings and n == OPTIONAL:
|             value = action.const if action.option_strings else action.default
|             if isinstance(value, str):
|                 value = self._get_value(action, value)
|                 self._check_value(action, value)
|         elif not strings and n == ZERO_OR_MORE and (not action.option_strings):
|             value = strings if action.default is None else action.default
|             self._check_value(action, value)
|         elif len(strings) == 1 and n in (None, OPTIONAL):
|             value = self._get_value(action, strings[0])
|             self._check_value(action, value)
|         elif n == SUPPRESS:
|             value = SUPPRESS
|         else:
|             value = [self._get_value(action, v) for v in strings]
|             for v in value[:1] if n == PARSER else [] if n == REMAINDER else value:
|                 self._check_value(action, v)
|         return value

|     def _get_value(self, action, string):
|         made = self._registered('type', action.type)
|         try:
|             return made(string)
|         except ArgumentTypeError as err:
|             raise ArgumentError(action, str(err))
|         except (TypeError, ValueError):
|             raise ArgumentError(action, 'invalid %s value: %r' % (getattr(action.type,
|                 '__name__', repr(action.type)), string))

|     def _check_value(self, action, value):
|         if action.choices is not None and value not in action.choices:
|             raise ArgumentError(action, 'invalid choice: %r (choose from %s)' % (value,
|                 ', '.join(map(repr, action.choices))))

|     def format_usage(self):
|         formatter = self._get_formatter()
|         formatter.add_usage(self.usage, self._actions, self._mutually_exclusive_groups)
|         return formatter.format_help()

|     def _get_formatter(self):
|         return self.formatter_class(prog=self.prog)

|     def print_usage(self, file=None):
|         self._print_message(self.format_usage(), file or _sys.stdout)

|     def _print_message(self, message, file=None):
|         if message:
|             (file or _sys.stderr).write(message)

|     def exit(self, status=0, message=None):
|         if message:
|             self._print_message(message, _sys.stderr)
|         _sys.exit(status)

|     def error(self, message):
|         self.print_usage(_sys.stderr)
|         self.exit(2, '%s: error: %s\n' % (self.prog, message))
"#

/-- The module for notes about what happens. -/
def loggingText : String := r#"
| import sys, os, time, io, re, traceback, warnings, threading, atexit
| from string import Template
| _start = time.time()
| CRITICAL = FATAL = 50
| ERROR, WARNING, WARN, INFO, DEBUG, NOTSET = (40, 30, 30, 20, 10, 0)
| _nameToLevel = «'CRITICAL': 50, 'FATAL': 50, 'ERROR': 40, 'WARN': 30, 'WARNING': 30, 'INFO': 20,
|     'DEBUG': 10, 'NOTSET': 0»
| _levelToName = «n: name for name, n in _nameToLevel.items() if name not in ('FATAL', 'WARN')»

| def getLevelName(level):
|     found = _levelToName.get(level)
|     return _nameToLevel.get(level, 'Level %s' % (level,)) if found is None else found

| def addLevelName(level, levelName):
|     _levelToName[level], _nameToLevel[levelName] = (levelName, level)
| _srcfile = addLevelName.__code__.co_filename

| def _checkLevel(level):
|     if isinstance(level, int):
|         return level
|     if not isinstance(level, str):
|         raise TypeError('Level not an integer or a valid string: %r' % (level,))
|     if level not in _nameToLevel:
|         raise ValueError('Unknown level: %r' % level)
|     return _nameToLevel[level]

| class LogRecord:

|     def __init__(self, name, level, pathname, lineno, msg, args, exc_info, func=None,
|         sinfo=None, **kwargs):
|         self.name, self.msg = (name, msg)
|         self.args = args[0] if args and len(args) == 1 and isinstance(args[0],
|             dict) and args[0] else args
|         self.levelname, self.levelno, self.pathname = (getLevelName(level), level, pathname)
|         self.filename = os.path.basename(pathname)
|         self.module = os.path.splitext(self.filename)[0]
|         self.exc_info, self.exc_text, self.stack_info = (exc_info, None, sinfo)
|         self.lineno, self.funcName, self.created = (lineno, func, time.time())
|         self.msecs = int((self.created - int(self.created)) * 1000) + 0.0
|         self.relativeCreated = (self.created - _start) * 1000
|         self.thread = threading.get_ident()
|         self.threadName = threading.current_thread().name
|         self.processName, self.process = ('MainProcess', os.getpid())

|     def getMessage(self):
|         return str(self.msg) % self.args if self.args else str(self.msg)
| _factory = LogRecord

| class PercentStyle:
|     default_format, asctime_search = ('%(message)s', ('%(asctime)',))

|     def __init__(self, fmt, *, defaults=None):
|         self._fmt, self._defaults = (fmt or self.default_format, defaults or «»)

|     def usesTime(self):
|         return any([s in self._fmt for s in self.asctime_search])

|     def validate(self):
|         if not re.search('(?i)%\\(\\w+\\)[#0+ -]*(\\*|\\d+)?(\\.(\\*|\\d+))?[diouxefgcrsa%]',
|             self._fmt):
|             raise ValueError("Invalid format '%s' for '%s' style" % (self._fmt,
|                 self.default_format[0]))

|     def _format(self, values):
|         return self._fmt % values

|     def format(self, record):
|         try:
|             return self._format(«**self._defaults, **record.__dict__»)
|         except KeyError as e:
|             raise ValueError('Formatting field not found in record: %s' % e)

| class StrFormatStyle(PercentStyle):
|     default_format, asctime_search = ('«message»', ('«asctime',))

| class StringTemplateStyle(PercentStyle):
|     default_format, asctime_search = ('$«message»', ('$asctime', '$«asctime»'))
| BASIC_FORMAT = '%(levelname)s:%(name)s:%(message)s'
| _STYLES = «'%': (PercentStyle, BASIC_FORMAT), '«': (StrFormatStyle,
|     '«levelname»:«name»:«message»'), '$': (StringTemplateStyle,
|     '$«levelname»:$«name»:$«message»')»

| class Formatter:
|     converter = time.localtime
|     default_time_format, default_msec_format = ('%Y-%m-%d %H:%M:%S', '%s,%03d')

|     def __init__(self, fmt=None, datefmt=None, style='%', validate=True, *, defaults=None):
|         if style not in _STYLES:
|             raise ValueError('Style must be one of: %s' % ','.join(_STYLES.keys()))
|         self._style = _STYLES[style][0](fmt, defaults=defaults)
|         if validate:
|             self._style.validate()
|         self._fmt, self.datefmt = (self._style._fmt, datefmt)

|     def usesTime(self):
|         return self._style.usesTime()

|     def formatMessage(self, record):
|         return self._style.format(record)

|     def format(self, record):
|         record.message = record.getMessage()
|         if self.usesTime():
|             record.asctime = self.formatTime(record, self.datefmt)
|         s = self.formatMessage(record)
|         if record.exc_info and (not record.exc_text):
|             record.exc_text = self.formatException(record.exc_info)
|         if record.exc_text:
|             s = s.removesuffix('\n') + '\n' + record.exc_text
|         if record.stack_info:
|             s = s.removesuffix('\n') + '\n' + self.formatStack(record.stack_info)
|         return s
| _defaultFormatter = Formatter()

| class Filterer:

|     def __init__(self):
|         self.filters = []

|     def filter(self, record):
|         return all((f.filter(record) if hasattr(f, 'filter') else f(record)
|             for f in self.filters))
| _handlers, _handlerList = («», [])

| class Handler(Filterer):

|     def __init__(self, level=NOTSET):
|         Filterer.__init__(self)
|         self._name = self.formatter = None
|         self.level, self._closed = (_checkLevel(level), False)
|         _handlerList.append(self)
|         self.createLock()

|     def createLock(self):
|         self.lock = threading.RLock()

|     def acquire(self):
|         if self.lock:
|             self.lock.acquire()

|     def release(self):
|         if self.lock:
|             self.lock.release()

|     def format(self, record):
|         return (self.formatter or _defaultFormatter).format(record)

|     def handle(self, record):
|         found = self.filter(record)
|         if found:
|             self.acquire()
|             try:
|                 self.emit(record)
|             finally:
|                 self.release()
|         return found

|     def setFormatter(self, fmt):
|         self.formatter = fmt

|     def close(self):
|         self._closed = True
|         _handlers.pop(self._name, None)

| class StreamHandler(Handler):
|     terminator = '\n'

|     def __init__(self, stream=None):
|         Handler.__init__(self)
|         self.stream = sys.stderr if stream is None else stream

|     def flush(self):
|         if self.stream and hasattr(self.stream, 'flush'):
|             self.stream.flush()

|     def emit(self, record):
|         try:
|             self.stream.write(self.format(record) + self.terminator)
|             self.flush()
|         except RecursionError:
|             raise
|         except Exception:
|             self.handleError(record)

| class FileHandler(StreamHandler):
|     pass

| class _StderrHandler(StreamHandler):

|     def __init__(self, level=NOTSET):
|         Handler.__init__(self, level)
|     stream = property(lambda self: sys.stderr)
| lastResort = _StderrHandler(WARNING)

| class PlaceHolder:
|     pass

| class Manager:

|     def __init__(self, rootnode):
|         self.root, self._disable, self.loggerDict, self.loggerClass = (rootnode, 0, «», None)

|     @property
|     def disable(self):
|         return self._disable

|     def getLogger(self, name):
|         if not isinstance(name, str):
|             raise TypeError('A logger name must be a string')
|         found = self.loggerDict.get(name)
|         if found is None or isinstance(found, PlaceHolder):
|             found = self.loggerDict[name] = (self.loggerClass or _loggerClass)(name)
|             found.manager = self
|             parts = name.split('.')
|             for i in range(1, len(parts)):
|                 self.loggerDict.setdefault('.'.join(parts[:i]), PlaceHolder())
|             for other in list(self.loggerDict.values()):
|                 if isinstance(other, Logger):
|                     above = other.name.rpartition('.')[0]
|                     while above and (not isinstance(self.loggerDict.get(above), Logger)):
|                         above = above.rpartition('.')[0]
|                     other.parent = self.loggerDict[above] if above else self.root
|         return found

| class _Levels:

|     def debug(self, msg, *args, **kwargs):
|         self.log(DEBUG, msg, *args, **kwargs)

|     def info(self, msg, *args, **kwargs):
|         self.log(INFO, msg, *args, **kwargs)

|     def warning(self, msg, *args, **kwargs):
|         self.log(WARNING, msg, *args, **kwargs)

| class Logger(_Levels, Filterer):

|     def __init__(self, name, level=NOTSET):
|         Filterer.__init__(self)
|         self.name, self.level, self.parent = (name, _checkLevel(level), None)
|         self.propagate, self.handlers, self.disabled = (True, [], False)

|     def setLevel(self, level):
|         self.level = _checkLevel(level)

|     def log(self, level, msg, *args, **kwargs):
|         if not isinstance(level, int):
|             raise TypeError('level must be an integer')
|         if self.isEnabledFor(level):
|             self._log(level, msg, args, **kwargs)

|     def findCaller(self, stack_info=False, stacklevel=1):
|         f = sys._getframe(1)
|         while stacklevel > 0 and f.f_back is not None:
|             f = f.f_back
|             if f.f_code.co_filename != _srcfile:
|                 stacklevel -= 1
|         shown = None
|         if stack_info:
|             shown = 'Stack (most recent call last):\n' + ''.join(traceback.format_stack(f))[:-1]
|         return (f.f_code.co_filename, f.f_lineno, f.f_code.co_name, shown)

|     def makeRecord(self, name, level, fn, lno, msg, args, exc_info, func=None, extra=None,
|         sinfo=None):
|         record = _factory(name, level, fn, lno, msg, args, exc_info, func, sinfo)
|         for key in extra or ():
|             if key in ('message', 'asctime') or key in record.__dict__:
|                 raise KeyError('Attempt to overwrite %r in LogRecord' % key)
|             record.__dict__[key] = extra[key]
|         return record

|     def _log(self, level, msg, args, exc_info=None, extra=None, stack_info=False, stacklevel=1):
|         path, line, function, shown = self.findCaller(stack_info, stacklevel)
|         if isinstance(exc_info, BaseException):
|             exc_info = (type(exc_info), exc_info, exc_info.__traceback__)
|         elif exc_info and (not isinstance(exc_info, tuple)):
|             exc_info = sys.exc_info()
|         self.handle(self.makeRecord(self.name, level, path, line, msg, args, exc_info, function,
|             extra, shown))

|     def handle(self, record):
|         if not self.disabled and self.filter(record):
|             self.callHandlers(record)

|     def addHandler(self, hdlr):
|         if hdlr not in self.handlers:
|             self.handlers.append(hdlr)

|     def _reached(self):
|         c = self
|         while c:
|             yield from c.handlers
|             c = c.parent if c.propagate else None

|     def callHandlers(self, record):
|         found = list(self._reached())
|         for h in found or ([lastResort] if lastResort else []):
|             if record.levelno >= h.level:
|                 h.handle(record)

|     def getEffectiveLevel(self):
|         logger = self
|         while logger:
|             if logger.level:
|                 return logger.level
|             logger = logger.parent
|         return NOTSET

|     def isEnabledFor(self, level):
|         return not self.disabled and self.manager.disable < level and (level >= self.getEffectiveLevel())

| class RootLogger(Logger):

|     def __init__(self, level):
|         Logger.__init__(self, 'root', level)
| _loggerClass = Logger
| root = RootLogger(WARNING)
| Logger.root = root
| Logger.manager = Manager(root)

| def basicConfig(**kwargs):
|     if kwargs.pop('force', False):
|         for h in root.handlers[:]:
|             root.removeHandler(h)
|             h.close()
|     encoding = kwargs.pop('encoding', None)
|     errors = kwargs.pop('errors', 'backslashreplace')
|     if root.handlers:
|         return
|     handlers = kwargs.pop('handlers', None)
|     if handlers is None:
|         if 'stream' in kwargs and 'filename' in kwargs:
|             raise ValueError("'stream' and 'filename' should not be specified together")
|         filename, mode = (kwargs.pop('filename', None), kwargs.pop('filemode', 'a'))
|         handlers = [FileHandler(filename, mode, encoding=encoding, errors=errors) if filename
|             else StreamHandler(kwargs.pop('stream', None))]
|     elif 'stream' in kwargs or 'filename' in kwargs:
|         raise ValueError("'stream' or 'filename' should not be specified together with "
|    "'handlers'")
|     dates, style = (kwargs.pop('datefmt', None), kwargs.pop('style', '%'))
|     if style not in _STYLES:
|         raise ValueError('Style must be one of: %s' % ','.join(_STYLES.keys()))
|     shown = Formatter(kwargs.pop('format', _STYLES[style][1]), dates, style)
|     for h in handlers:
|         if h.formatter is None:
|             h.setFormatter(shown)
|         root.addHandler(h)
|     level = kwargs.pop('level', None)
|     if level is not None:
|         root.setLevel(level)
|     if kwargs:
|         raise ValueError('Unrecognised argument(s): %s' % ', '.join(kwargs.keys()))

| def getLogger(name=None):
|     if not name or name == root.name:
|         return root
|     return Logger.manager.getLogger(name)

| def _shortcut(name):

|     def call(*args, **kwargs):
|         if not root.handlers:
|             basicConfig()
|         getattr(root, name)(*args, **kwargs)
|     call.__name__ = call.__qualname__ = name
|     return call
| critical, fatal, error, exception, warning, warn, info, debug, log = [_shortcut(name)
|     for name in ('critical', 'fatal', 'error', 'exception', 'warning', 'warn', 'info', 'debug',
|     'log')]

| def shutdown(handlerList=_handlerList):
|     for h in reversed(handlerList[:]):
|         try:
|             h.flush()
|             h.close()
|         except (OSError, ValueError):
|             pass
| atexit.register(shutdown)
| _plain = None
"#

/-- The module for the places that exceptions came through. -/
def tracebackText : String := r#"
| import sys, linecache
| from textwrap import indent as _indent
| _unset = type('_Unset', (), «'__repr__': lambda self: '<implicit>'»)()

| def _given(exc, value, tb):
|     if (value is _unset) != (tb is _unset):
|         raise ValueError('Both or neither of value and tb must be given')
|     if value is not _unset:
|         return (value, tb)
|     if exc is None:
|         return (None, None)
|     if not isinstance(exc, BaseException):
|         raise TypeError(f'Exception expected for value, «type(exc).__name__» found')
|     return (exc, exc.__traceback__)

| def format_exception(exc, /, value=_unset, tb=_unset, limit=None, chain=True):
|     value, tb = _given(exc, value, tb)
|     return list(TracebackException(type(value), value, tb, limit=limit).format(chain=chain))

| def format_exc(limit=None, chain=True):
|     return ''.join(format_exception(*sys.exc_info(), limit, chain))

| def walk_tb(tb):
|     while tb is not None:
|         yield (tb.tb_frame, tb.tb_lineno)
|         tb = tb.tb_next

| class FrameSummary:
|     end_lineno = colno = end_colno = None

|     def __init__(self, filename, lineno, name, *, lookup_line=True, locals=None, line=None,
|         **places):
|         self.filename, self.lineno, self.name, self._line = (filename, lineno, name, line)
|         self.locals = «k: repr(v) for k, v in locals.items()» if locals else None
|         if lookup_line:
|             self.line

|     def _parts(self):
|         return (self.filename, self.lineno, self.name, self.line)

|     def __len__(self):
|         return 4

|     @property
|     def line(self):
|         if self._line is None:
|             if self.lineno is None:
|                 return None
|             self._line = linecache.getline(self.filename, self.lineno)
|         return self._line.strip()

| class StackSummary(list):

|     @classmethod
|     def extract(klass, frame_gen, *, limit=None, lookup_lines=True, capture_locals=False):
|         if limit is None:
|             limit = getattr(sys, 'tracebacklimit', None)
|             limit = limit and max(limit, 0)
|         frames = list(frame_gen)
|         if limit is not None:
|             frames = frames[:limit] if limit >= 0 else frames[limit:]
|         return klass([FrameSummary(f.f_code.co_filename, n, f.f_code.co_name,
|             lookup_line=lookup_lines, locals=f.f_locals if capture_locals else None) for f,
|             n in frames])

|     def format_frame_summary(self, frame_summary):
|         text = '  File "%s", line %s, in %s\n' % frame_summary._parts()[:3]
|         if frame_summary.line:
|             text += '    %s\n' % frame_summary.line
|         for name, value in sorted((frame_summary.locals or «»).items()):
|             text += '    %s = %s\n' % (name, value)
|         return text

|     def format(self):
|         out, last, count = ([], None, 0)
|         for f in list(self) + [None]:
|             text = f and self.format_frame_summary(f)
|             if f and text is None:
|                 continue
|             if f is None or f._parts()[:3] != last:
|                 if count > 3:
|                     out.append('  [Previous line repeated %d more time%s]\n' % (count - 3, 's'
|                         if count > 4 else ''))
|                 last, count = (f and f._parts()[:3], 0)
|             count += 1
|             if count <= 3 and f:
|                 out.append(text)
|         return out

| def _safely(value, what, shown=str):
|     try:
|         return shown(value)
|     except:
|         return f'<«what» «shown.__name__»() failed>'

| class TracebackException:

|     def __init__(self, exc_type, exc_value, exc_traceback, *, limit=None, lookup_lines=True,
|         capture_locals=False, compact=False, max_group_width=15, max_group_depth=10,
|         _seen=None):
|         seen = set() if _seen is None else _seen
|         seen.add(id(exc_value))
|         self.max_group_width, self.max_group_depth = (max_group_width, max_group_depth)
|         self.stack = StackSummary.extract(walk_tb(exc_traceback), limit=limit,
|             lookup_lines=lookup_lines, capture_locals=capture_locals)
|         self.exc_type, self._str = (exc_type, _safely(exc_value, 'exception'))
|         self.__notes__ = getattr(exc_value, '__notes__', None)
|         if exc_type and issubclass(exc_type, SyntaxError):
|             for name in ('filename', 'text', 'offset', 'end_offset', 'msg'):
|                 setattr(self, name, getattr(exc_value, name))
|             for name in ('lineno', 'end_lineno'):
|                 n = getattr(exc_value, name)
|                 setattr(self, name, None if n is None else str(n))
|         self.__suppress_context__ = exc_value is not None and exc_value.__suppress_context__

|         def other(e):
|             return None if e is None or id(e) in seen else TracebackException(type(e), e,
|                 e.__traceback__, limit=limit, lookup_lines=lookup_lines,
|                 capture_locals=capture_locals, max_group_width=max_group_width,
|                 max_group_depth=max_group_depth, _seen=seen)
|         self.__cause__ = other(getattr(exc_value, '__cause__', None))
|         self.__context__ = other(getattr(exc_value, '__context__', None))
|         self.exceptions = [other(e) for e in exc_value.exceptions] if isinstance(exc_value,
|             BaseExceptionGroup) else None

|     def format_exception_only(self):
|         kind = self.exc_type
|         name = 'None' if kind is None else kind.__qualname__ if kind.__module__ in ('__main__',
|             'builtins') else kind.__module__ + '.' + kind.__qualname__
|         if kind is not None and issubclass(kind, SyntaxError):
|             yield from self._format_syntax_error(name)
|         else:
|             yield (name + '\n' if kind is None or not self._str else '%s: %s\n' % (name,
|                 self._str))
|         notes = self.__notes__
|         if isinstance(notes, (list, tuple, str)):
|             for note in notes:
|                 yield from [l + '\n' for l in _safely(note, 'note').split('\n')]
|         elif notes is not None:
|             yield _safely(notes, '__notes__', repr)

|     def format(self, *, chain=True, _depth=0):
|         e, follows = (self, None)
|         if chain and (e.__cause__ or (e.__context__ and (not e.__suppress_context__))):
|             yield from (e.__cause__ or e.__context__).format(_depth=_depth)
|             follows = 'The above exception was the direct cause of the following exception' if e.__cause__ else ('During handling of the above exception, another exception ' \
|     'occurred')

|         def put(text, depth, mark='| '):
|             return _indent(text, '  ' * depth + mark if depth else '', lambda line: True)
|         if follows:
|             yield put('\n%s:\n\n' % follows, _depth)
|         group = e.exceptions is not None
|         if group and _depth > e.max_group_depth:
|             yield put('... (max_group_depth is %d)\n' % e.max_group_depth, _depth)
|             return
|         depth = _depth or int(group)
|         if e.stack:
|             yield put(('Exception Group ' if group else '')
|                 + 'Traceback (most recent call last):\n', depth, '| ' if _depth else '+ ')
|         for text in (e.stack.format() if e.stack else []) + list(e.format_exception_only()):
|             yield put(text, depth)
|         n = len(e.exceptions or ())
|         for i, inner in enumerate((e.exceptions or ())[:e.max_group_width + 1]):
|             cut = i == e.max_group_width
|             yield ('  ' * depth + ('+-' if i == 0 else '  ')
|                 + f"+---------------- «('...' if cut else i + 1)» ----------------\n")
|             if cut:
|                 more = n - i
|                 yield put('and %d more exception%s\n' % (more, 's' * (more > 1)), depth + 1)
|             else:
|                 yield from inner.format(chain=chain, _depth=depth + 1)
|         if n and (cut or not inner.exceptions or depth >= e.max_group_depth):
|             yield ('  ' * (depth + 1) + '+------------------------------------\n')
"#

def linecacheText : String := r#"
| __all__ = ['getline']
| cache = «»

| def getline(filename, lineno, module_globals=None):
|     lines = getlines(filename, module_globals)
|     if 1 <= lineno <= len(lines):
|         return lines[lineno - 1]
|     return ''

| def getlines(filename, module_globals=None):
|     if filename in cache:
|         return cache[filename][2]
|     return updatecache(filename, module_globals)

| def updatecache(filename, module_globals=None):
|     if not filename or (filename.startswith('<') and filename.endswith('>')):
|         return []
|     try:
|         with open(filename) as f:
|             lines = f.readlines()
|     except (OSError, UnicodeDecodeError, SyntaxError):
|         return []
|     if lines and (not lines[-1].endswith('\n')):
|         lines[-1] += '\n'
|     cache[filename] = (sum(map(len, lines)), None, lines, filename)
|     return lines
"#

def warningsText : String := r#"
| import sys
| filters = [('default', None, DeprecationWarning, '__main__', 0)] + [('ignore', None, c, None,
|     0) for c in (DeprecationWarning, PendingDeprecationWarning, ImportWarning, ResourceWarning)]
"#

end Flowboard.Script.Prelude
