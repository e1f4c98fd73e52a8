import RouteAtlas.Text.Basic
import RouteAtlas.Text.CodeRanges

/-!
# The form in which names are compared

A name may be spelled in several ways that count as one: with characters that only look different
(`ﬁ` for `fi`, wide letters for plain ones), and with an accent as part of a letter or behind it.
The compared form replaces the former, takes all letters apart into letters and accents, orders the
accents behind a letter by their class, and puts letters and accents together again as far as
possible. The syllables of Hangul are put together by arithmetic.

The tables cover the characters that names may consist of. ASCII is in none of them.
-/

namespace RouteAtlas.Text

/-- Characters `first`, `first + 1`, … (`count` of them), replaced by `target`, `target + step`, ….
-/
structure ReplacedRun where
  first : Nat
  count : Nat
  step : Nat
  target : Nat

/-- Reads runs from rows of four numbers: the distance from the run before, then the other three
fields. -/
def replacedRunsFrom : Nat → List Int → List ReplacedRun
  | start, gap :: count :: step :: target :: rest =>
    let first := start + gap.toNat
    ⟨first, count.toNat, step.toNat, target.toNat⟩ :: replacedRunsFrom first rest
  | _, _ => []

/-- The characters that one character replaces. -/
def replacedRuns : List ReplacedRun := replacedRunsFrom 0 <| numbersIn
  "170 1 1 97 11 1 1 956 5 1 1 111 197 1 1 115 305 1 1 104 1 1 1 614 1 1 1 106 1 1 1 114 1 1 1
   633 1 1 1 635 1 1 1 641 1 1 1 119 1 1 1 121 40 1 1 611 1 1 1 108 1 1 1 115 1 1 1 120 1 1 1
   661 92 2 1 768 3 1 1 787 49 1 1 697 19 1 1 183 73 1 1 946 1 1 1 952 1 1 1 933 1 1 1 910 1 1
   1 939 1 1 1 966 1 1 1 960 26 1 1 954 1 2 1 961 3 1 1 920 1 1 1 949 4 1 1 931 3331 1 1 4316
   3120 1 1 65 1 1 1 198 1 1 1 66 2 2 1 68 2 1 1 398 1 8 1 71 9 1 1 79 1 1 1 546 1 1 1 80 1 1 1
   82 1 2 1 84 2 1 1 87 1 1 1 97 1 2 1 592 2 1 1 7426 1 1 1 98 1 2 1 100 2 1 1 601 1 2 1 603 2
   1 1 103 2 1 1 107 1 1 1 109 1 1 1 331 1 1 1 111 1 1 1 596 1 2 1 7446 2 1 1 112 1 2 1 116 2 1
   1 7453 1 1 1 623 1 1 1 118 1 1 1 7461 1 3 1 946 3 2 1 966 2 1 1 105 1 1 1 114 1 2 1 117 2 2
   1 946 2 1 1 961 1 2 1 966 15 1 1 1085 35 1 1 594 1 1 1 99 1 1 1 597 1 1 1 240 1 1 1 604 1 1
   1 102 1 1 1 607 1 1 1 609 1 1 1 613 1 3 1 616 3 1 1 7547 1 1 1 669 1 1 1 621 1 1 1 7557 1 1
   1 671 1 1 1 625 1 1 1 624 1 4 1 626 4 1 1 632 1 2 1 642 2 1 1 427 1 2 1 649 2 1 1 7452 1 2 1
   651 2 1 1 122 1 3 1 656 3 1 1 952 220 1 1 7777 214 1 1 940 2 1 1 941 2 1 1 942 2 1 1 943 2 1
   1 972 2 1 1 973 2 1 1 974 62 1 1 902 3 1 1 953 11 1 1 904 2 1 1 905 8 1 1 912 8 1 1 906 8 1
   1 944 8 1 1 910 14 1 1 908 2 1 1 911 118 1 1 105 14 1 1 110 17 1 1 97 1 1 1 101 1 1 1 111 1
   1 1 120 1 1 1 601 1 1 1 104 1 4 1 107 4 1 1 112 1 2 1 115 103 1 1 67 5 1 1 400 3 1 1 103 1 3
   0 72 3 1 1 104 1 1 1 295 1 2 0 73 2 1 1 76 1 1 1 108 2 1 1 78 4 3 1 80 3 2 0 82 8 1 1 90 2 1
   1 937 2 1 1 90 2 1 1 75 1 1 1 197 1 2 1 66 3 1 1 101 1 2 1 69 3 1 1 77 1 1 1 111 1 4 1 1488
   4 1 1 105 3 1 1 960 1 1 1 947 1 1 1 915 1 1 1 928 6 1 1 68 1 2 1 100 2 2 1 105 24 1 1 73 4 1
   1 86 5 1 1 88 3 1 1 76 1 2 1 67 2 1 1 77 1 1 1 105 4 1 1 118 5 1 1 120 3 1 1 108 1 2 1 99 2
   1 1 109 2813 1 1 106 1 1 1 86 242 1 1 11617 713 1 1 21313 1 2 1 21316 248 2 1 4352 2 1 1
   4522 1 1 1 4354 1 2 1 4524 2 3 1 4355 3 6 1 4528 6 1 1 4378 1 3 1 4358 3 1 1 4385 1 10 1
   4361 10 21 1 4449 21 1 1 4448 1 2 1 4372 2 2 1 4551 2 1 1 4556 1 1 1 4558 1 1 1 4563 1 1 1
   4567 1 1 1 4569 1 1 1 4380 1 1 1 4573 1 1 1 4575 1 2 1 4381 2 1 1 4384 1 2 1 4386 2 1 1 4391
   1 1 1 4393 1 5 1 4395 5 1 1 4402 1 1 1 4406 1 1 1 4416 1 1 1 4423 1 1 1 4428 1 2 1 4593 2 3
   1 4439 3 2 1 4484 2 1 1 4488 1 2 1 4497 2 1 1 4500 1 1 1 4510 1 1 1 4513 29966 1 1 1098 1 1
   1 1100 211 1 1 42863 130 1 1 67 1 1 1 70 1 1 1 81 4 1 1 294 1 1 1 339 867 1 1 42791 1 1 1
   43831 1 1 1 619 1 1 1 43858 10 1 1 653 19863 1 1 35912 1 1 1 26356 1 1 1 36554 1 1 1 36040 1
   1 1 28369 1 1 1 20018 1 1 1 21477 1 2 0 40860 2 1 1 22865 1 1 1 37329 1 1 1 21895 1 1 1
   22856 1 1 1 25078 1 1 1 30313 1 1 1 32645 1 1 1 34367 1 1 1 34746 1 1 1 35064 1 1 1 37007 1
   1 1 27138 1 1 1 27931 1 1 1 28889 1 1 1 29662 1 1 1 33853 1 1 1 37226 1 1 1 39409 1 1 1
   20098 1 1 1 21365 1 1 1 27396 1 1 1 29211 1 1 1 34349 1 1 1 40478 1 1 1 23888 1 1 1 28651 1
   1 1 34253 1 1 1 35172 1 1 1 25289 1 1 1 33240 1 1 1 34847 1 1 1 24266 1 1 1 26391 1 1 1
   28010 1 1 1 29436 1 1 1 37070 1 1 1 20358 1 1 1 20919 1 1 1 21214 1 1 1 25796 1 1 1 27347 1
   1 1 29200 1 1 1 30439 1 1 1 32769 1 1 1 34310 1 1 1 34396 1 1 1 36335 1 1 1 38706 1 1 1
   39791 1 1 1 40442 1 1 1 30860 1 1 1 31103 1 1 1 32160 1 1 1 33737 1 1 1 37636 1 1 1 40575 1
   1 1 35542 1 1 1 22751 1 1 1 24324 1 1 1 31840 1 1 1 32894 1 1 1 29282 1 1 1 30922 1 1 1
   36034 1 1 1 38647 1 1 1 22744 1 1 1 23650 1 1 1 27155 1 1 1 28122 1 1 1 28431 1 1 1 32047 1
   1 1 32311 1 1 1 38475 1 1 1 21202 1 1 1 32907 1 1 1 20956 1 1 1 20940 1 1 1 31260 1 1 1
   32190 1 1 1 33777 1 1 1 38517 1 1 1 35712 1 1 1 25295 1 1 1 27138 1 1 1 35582 1 1 1 20025 1
   1 1 23527 1 1 1 24594 1 1 1 29575 1 1 1 30064 1 1 1 21271 1 1 1 30971 1 1 1 20415 1 1 1
   24489 1 1 1 19981 1 1 1 27852 1 1 1 25976 1 1 1 32034 1 1 1 21443 1 1 1 22622 1 1 1 30465 1
   1 1 33865 1 1 1 35498 1 1 1 27578 1 1 1 36784 1 1 1 27784 1 1 1 25342 1 1 1 33509 1 1 1
   25504 1 1 1 30053 1 1 1 20142 1 1 1 20841 1 1 1 20937 1 1 1 26753 1 1 1 31975 1 1 1 33391 1
   1 1 35538 1 1 1 37327 1 1 1 21237 1 1 1 21570 1 1 1 22899 1 1 1 24300 1 1 1 26053 1 1 1
   28670 1 1 1 31018 1 1 1 38317 1 1 1 39530 1 1 1 40599 1 1 1 40654 1 1 1 21147 1 1 1 26310 1
   1 1 27511 1 1 1 36706 1 1 1 24180 1 1 1 24976 1 1 1 25088 1 1 1 25754 1 1 1 28451 1 1 1
   29001 1 1 1 29833 1 1 1 31178 1 1 1 32244 1 1 1 32879 1 1 1 36646 1 1 1 34030 1 1 1 36899 1
   1 1 37706 1 1 1 21015 1 1 1 21155 1 1 1 21693 1 1 1 28872 1 1 1 35010 1 1 1 35498 1 1 1
   24265 1 1 1 24565 1 1 1 25467 1 1 1 27566 1 1 1 31806 1 1 1 29557 1 1 1 20196 1 1 1 22265 1
   1 1 23527 1 1 1 23994 1 1 1 24604 1 1 1 29618 1 1 1 29801 1 1 1 32666 1 1 1 32838 1 1 1
   37428 1 1 1 38646 1 1 1 38728 1 1 1 38936 1 1 1 20363 1 1 1 31150 1 1 1 37300 1 1 1 38584 1
   1 1 24801 1 1 1 20102 1 1 1 20698 1 1 1 23534 1 1 1 23615 1 1 1 26009 1 1 1 27138 1 1 1
   29134 1 1 1 30274 1 1 1 34044 1 1 1 36988 1 1 1 40845 1 1 1 26248 1 1 1 38446 1 1 1 21129 1
   1 1 26491 1 1 1 26611 1 1 1 27969 1 1 1 28316 1 1 1 29705 1 1 1 30041 1 1 1 30827 1 1 1
   32016 1 1 1 39006 1 1 1 20845 1 1 1 25134 1 1 1 38520 1 1 1 20523 1 1 1 23833 1 1 1 28138 1
   1 1 36650 1 1 1 24459 1 1 1 24900 1 1 1 26647 1 1 1 29575 1 1 1 38534 1 1 1 21033 1 1 1
   21519 1 1 1 23653 1 1 1 26131 1 1 1 26446 1 1 1 26792 1 1 1 27877 1 1 1 29702 1 1 1 30178 1
   1 1 32633 1 1 1 35023 1 1 1 35041 1 1 1 37324 1 1 1 38626 1 1 1 21311 1 1 1 28346 1 1 1
   21533 1 1 1 29136 1 1 1 29848 1 1 1 34298 1 1 1 38563 1 1 1 40023 1 1 1 40607 1 1 1 26519 1
   1 1 28107 1 1 1 33256 1 1 1 31435 1 1 1 31520 1 1 1 31890 1 1 1 29376 1 1 1 28825 1 1 1
   35672 1 1 1 20160 1 1 1 33590 1 1 1 21050 1 1 1 20999 1 1 1 24230 1 1 1 25299 1 1 1 31958 1
   1 1 23429 1 1 1 27934 1 1 1 26292 1 1 1 36667 1 1 1 34892 1 1 1 38477 1 1 1 35211 1 1 1
   24275 1 1 1 20800 1 1 1 21952 3 1 1 22618 2 1 1 26228 3 1 1 20958 1 1 1 29482 1 1 1 30410 1
   1 1 31036 1 1 1 31070 1 1 1 31077 1 1 1 31119 1 1 1 38742 1 1 1 31934 1 1 1 32701 2 1 1
   34322 2 1 1 35576 3 1 1 36920 1 1 1 37117 4 1 1 39151 1 1 1 39164 1 1 1 39208 1 1 1 40372 1
   1 1 37086 1 1 1 38583 1 1 1 20398 1 1 1 20711 1 1 1 20813 1 1 1 21193 1 1 1 21220 1 1 1
   21329 1 1 1 21917 1 1 1 22022 1 1 1 22120 1 1 1 22592 1 1 1 22696 1 1 1 23652 1 1 1 23662 1
   1 1 24724 1 1 1 24936 1 1 1 24974 1 1 1 25074 1 1 1 25935 1 1 1 26082 1 1 1 26257 1 1 1
   26757 1 1 1 28023 1 1 1 28186 1 1 1 28450 1 1 1 29038 1 1 1 29227 1 1 1 29730 1 1 1 30865 1
   1 1 31038 1 1 1 31049 1 1 1 31048 1 1 1 31056 1 1 1 31062 1 1 1 31069 1 2 1 31117 2 1 1
   31296 1 1 1 31361 1 1 1 31680 1 1 1 32244 1 1 1 32265 1 1 1 32321 1 1 1 32626 1 1 1 32773 1
   1 1 33261 1 2 0 33401 2 1 1 33879 1 1 1 35088 1 1 1 35222 1 1 1 35585 1 1 1 35641 1 1 1
   36051 1 1 1 36104 1 1 1 36790 1 1 1 36920 1 1 1 38627 1 1 1 38911 1 1 1 38971 1 1 1 24693 1
   1 1 148206 1 1 1 33304 3 1 1 20006 1 1 1 20917 1 1 1 20840 1 1 1 20352 1 1 1 20805 1 1 1
   20864 1 1 1 21191 1 1 1 21242 1 1 1 21917 1 1 1 21845 1 1 1 21913 1 1 1 21986 1 1 1 22618 1
   1 1 22707 1 1 1 22852 1 1 1 22868 1 1 1 23138 1 1 1 23336 1 1 1 24274 1 1 1 24281 1 1 1
   24425 1 1 1 24493 1 1 1 24792 1 1 1 24910 1 1 1 24840 1 1 1 24974 1 1 1 24928 1 1 1 25074 1
   1 1 25140 1 1 1 25540 1 1 1 25628 1 1 1 25682 1 1 1 25942 1 1 1 26228 1 1 1 26391 1 1 1
   26395 1 1 1 26454 1 1 1 27513 1 1 1 27578 1 1 1 27969 1 1 1 28379 1 1 1 28363 1 1 1 28450 1
   1 1 28702 1 1 1 29038 1 1 1 30631 1 1 1 29237 1 1 1 29359 1 1 1 29482 1 1 1 29809 1 1 1
   29958 1 1 1 30011 1 1 1 30237 1 1 1 30239 1 1 1 30410 1 1 1 30427 1 1 1 30452 1 1 1 30538 1
   1 1 30528 1 1 1 30924 1 1 1 31409 1 1 1 31680 1 1 1 31867 1 1 1 32091 1 1 1 32244 1 1 1
   32574 1 1 1 32773 1 1 1 33618 1 1 1 33775 1 1 1 34681 1 1 1 35137 1 1 1 35206 1 1 1 35222 1
   1 1 35519 1 1 1 35576 1 1 1 35531 1 1 1 35585 1 1 1 35582 1 1 1 35565 1 1 1 35641 1 1 1
   35722 1 1 1 36104 1 1 1 36664 1 1 1 36978 1 1 1 37273 1 1 1 37494 1 1 1 38524 1 1 1 38627 1
   1 1 38742 1 1 1 38875 1 1 1 38911 1 1 1 38923 1 1 1 38971 1 1 1 39698 1 1 1 40860 1 1 1
   141386 1 1 1 141380 1 1 1 144341 1 1 1 15261 1 1 1 16408 1 1 1 16441 1 1 1 152137 1 1 1
   154832 1 1 1 163539 1 1 1 40771 1 1 1 40846 71 1 1 1506 1 1 1 1488 1 2 1 1491 2 3 1 1499 3 1
   1 1512 1 1 1 1514 40 2 0 1649 2 4 0 1659 4 4 0 1662 4 4 0 1664 4 4 0 1658 4 4 0 1663 4 4 0
   1657 4 4 0 1700 4 4 0 1702 4 4 0 1668 4 4 0 1667 4 4 0 1670 4 4 0 1671 4 2 0 1677 2 2 0 1676
   2 2 0 1678 2 2 0 1672 2 2 0 1688 2 2 0 1681 2 4 0 1705 4 4 0 1711 4 4 0 1715 4 4 0 1713 4 2
   0 1722 2 4 0 1723 4 2 0 1728 2 4 0 1729 4 4 0 1726 4 2 0 1746 2 2 0 1747 35 4 0 1709 4 2 0
   1735 2 2 0 1734 2 2 0 1736 3 2 0 1739 2 2 0 1733 2 2 0 1737 2 4 0 1744 4 2 0 1609 20 4 0
   1740 567 2 0 95 26 3 0 95 51 2 1 1569 2 2 1 1570 2 2 1 1571 2 2 1 1572 2 2 1 1573 2 3 0 1574
   3 2 0 1575 2 4 0 1576 4 2 0 1577 2 4 0 1578 4 4 0 1579 4 4 0 1580 4 4 0 1581 4 4 0 1582 4 2
   0 1583 2 2 0 1584 2 2 0 1585 2 2 0 1586 2 4 0 1587 4 4 0 1588 4 4 0 1589 4 4 0 1590 4 4 0
   1591 4 4 0 1592 4 4 0 1593 4 4 0 1594 4 4 0 1601 4 4 0 1602 4 4 0 1603 4 4 0 1604 4 4 0 1605
   4 4 0 1606 4 4 0 1607 4 2 0 1608 2 2 0 1609 2 4 0 1610 31 10 1 48 17 26 1 65 30 1 1 95 2 26
   1 97 37 1 1 12530 1 1 1 12449 1 1 1 12451 1 1 1 12453 1 1 1 12455 1 1 1 12457 1 1 1 12515 1
   1 1 12517 1 1 1 12519 1 1 1 12483 1 1 1 12540 1 1 1 12450 1 1 1 12452 1 1 1 12454 1 1 1
   12456 1 2 1 12458 2 1 1 12461 1 1 1 12463 1 1 1 12465 1 1 1 12467 1 1 1 12469 1 1 1 12471 1
   1 1 12473 1 1 1 12475 1 1 1 12477 1 1 1 12479 1 1 1 12481 1 1 1 12484 1 1 1 12486 1 1 1
   12488 1 6 1 12490 6 1 1 12498 1 1 1 12501 1 1 1 12504 1 1 1 12507 1 5 1 12510 5 1 1 12516 1
   1 1 12518 1 6 1 12520 6 1 1 12527 1 1 1 12531 1 2 1 12441 2 1 1 4448 1 2 1 4352 2 1 1 4522 1
   1 1 4354 1 2 1 4524 2 3 1 4355 3 6 1 4528 6 1 1 4378 1 3 1 4358 3 1 1 4385 1 10 1 4361 13 6
   1 4449 8 6 1 4455 8 6 1 4461 8 3 1 4467 1959 2 1 720 2 1 1 230 1 1 1 665 1 1 1 595 2 1 1 675
   1 1 1 43878 1 1 1 677 1 1 1 676 1 2 1 598 2 1 1 7569 1 1 1 600 1 1 1 606 1 1 1 681 1 1 1 612
   1 1 1 610 1 1 1 608 1 1 1 667 1 1 1 295 1 1 1 668 1 1 1 615 1 1 1 644 1 2 1 682 2 1 1 620 1
   1 1 122628 1 1 1 42894 1 1 1 622 1 1 1 122629 1 1 1 654 1 1 1 122630 1 1 1 248 1 2 1 630 2 1
   1 113 1 1 1 634 1 1 1 122632 1 2 1 637 2 1 1 640 1 1 1 680 1 1 1 678 1 1 1 43879 1 1 1 679 1
   1 1 648 1 1 1 11377 2 1 1 655 1 2 1 673 2 1 1 664 1 3 1 448 3 1 1 122634 1 1 1 122654 52294
   26 1 65 26 26 1 97 26 26 1 65 26 7 1 97 8 18 1 105 18 26 1 65 26 26 1 97 26 1 1 65 2 2 1 67
   4 1 1 71 3 2 1 74 4 4 1 78 5 8 1 83 8 4 1 97 5 1 1 102 2 7 1 104 8 11 1 112 11 26 1 65 26 26
   1 97 26 2 1 65 3 4 1 68 6 8 1 74 9 7 1 83 8 26 1 97 26 2 1 65 3 4 1 68 5 5 1 73 6 1 1 79 4 7
   1 83 8 26 1 97 26 26 1 65 26 26 1 97 26 26 1 65 26 26 1 97 26 26 1 65 26 26 1 97 26 26 1 65
   26 26 1 97 26 26 1 65 26 26 1 97 26 26 1 65 26 26 1 97 26 1 1 305 1 1 1 567 3 17 1 913 17 1
   1 920 1 7 1 931 8 25 1 945 26 1 1 949 1 1 1 952 1 1 1 954 1 1 1 966 1 1 1 961 1 1 1 960 1 17
   1 913 17 1 1 920 1 7 1 931 8 25 1 945 26 1 1 949 1 1 1 952 1 1 1 954 1 1 1 966 1 1 1 961 1 1
   1 960 1 17 1 913 17 1 1 920 1 7 1 931 8 25 1 945 26 1 1 949 1 1 1 952 1 1 1 954 1 1 1 966 1
   1 1 961 1 1 1 960 1 17 1 913 17 1 1 920 1 7 1 931 8 25 1 945 26 1 1 949 1 1 1 952 1 1 1 954
   1 1 1 966 1 1 1 961 1 1 1 960 1 17 1 913 17 1 1 920 1 7 1 931 8 25 1 945 26 1 1 949 1 1 1
   952 1 1 1 954 1 1 1 966 1 1 1 961 1 1 1 960 1 2 1 988 4 10 1 48 10 10 1 48 10 10 1 48 10 10
   1 48 10 10 1 48 5642 2 1 1575 2 1 1 1580 1 1 1 1583 2 1 1 1608 1 1 1 1586 1 1 1 1581 1 1 1
   1591 1 1 1 1610 1 4 1 1603 4 1 1 1587 1 1 1 1593 1 1 1 1601 1 1 1 1589 1 1 1 1602 1 1 1 1585
   1 1 1 1588 1 2 1 1578 2 1 1 1582 1 1 1 1584 1 1 1 1590 1 1 1 1592 1 1 1 1594 1 1 1 1646 1 1
   1 1722 1 1 1 1697 1 1 1 1647 2 1 1 1576 1 1 1 1580 2 1 1 1607 3 1 1 1581 2 1 1 1610 1 4 1
   1603 4 1 1 1587 1 1 1 1593 1 1 1 1601 1 1 1 1589 1 1 1 1602 2 1 1 1588 1 2 1 1578 2 1 1 1582
   2 1 1 1590 2 1 1 1594 7 1 1 1580 5 1 1 1581 2 1 1 1610 2 1 1 1604 2 1 1 1606 1 1 1 1587 1 1
   1 1593 2 1 1 1589 1 1 1 1602 2 1 1 1588 3 1 1 1582 2 1 1 1590 2 1 1 1594 2 1 1 1722 2 1 1
   1647 2 1 1 1576 1 1 1 1580 2 1 1 1607 3 1 1 1581 1 1 1 1591 1 1 1 1610 1 1 1 1603 2 2 1 1605
   2 1 1 1587 1 1 1 1593 1 1 1 1601 1 1 1 1589 1 1 1 1602 2 1 1 1588 1 2 1 1578 2 1 1 1582 2 1
   1 1590 1 1 1 1592 1 1 1 1594 1 1 1 1646 2 1 1 1697 2 2 1 1575 2 1 1 1580 1 1 1 1583 1 2 1
   1607 2 1 1 1586 1 1 1 1581 1 1 1 1591 1 1 1 1610 2 3 1 1604 3 1 1 1587 1 1 1 1593 1 1 1 1601
   1 1 1 1589 1 1 1 1602 1 1 1 1585 1 1 1 1588 1 2 1 1578 2 1 1 1582 1 1 1 1584 1 1 1 1590 1 1
   1 1592 1 1 1 1594 6 1 1 1576 1 1 1 1580 1 1 1 1583 2 1 1 1608 1 1 1 1586 1 1 1 1581 1 1 1
   1591 1 1 1 1610 2 3 1 1604 3 1 1 1587 1 1 1 1593 1 1 1 1601 1 1 1 1589 1 1 1 1602 1 1 1 1585
   1 1 1 1588 1 2 1 1578 2 1 1 1582 1 1 1 1584 1 1 1 1590 1 1 1 1592 1 1 1 1594 3381 10 1 48
   64528 1 1 20029 1 1 1 20024 1 1 1 20033 1 1 1 131362 1 1 1 20320 1 1 1 20398 1 1 1 20411 1 1
   1 20482 1 1 1 20602 1 1 1 20633 1 1 1 20711 1 1 1 20687 1 1 1 13470 1 1 1 132666 1 1 1 20813
   1 1 1 20820 1 1 1 20836 1 1 1 20855 1 1 1 132380 1 1 1 13497 1 1 1 20839 1 1 1 20877 1 1 1
   132427 1 1 1 20887 1 1 1 20900 1 1 1 20172 1 1 1 20908 1 1 1 20917 1 1 1 168415 1 1 1 20981
   1 1 1 20995 1 1 1 13535 1 1 1 21051 1 1 1 21062 1 1 1 21106 1 1 1 21111 1 1 1 13589 1 1 1
   21191 1 1 1 21193 1 1 1 21220 1 1 1 21242 1 2 1 21253 2 1 1 21271 1 1 1 21321 1 1 1 21329 1
   1 1 21338 1 1 1 21363 1 1 1 21373 1 3 0 21375 3 1 1 133676 1 1 1 28784 1 1 1 21450 1 1 1
   21471 1 1 1 133987 1 1 1 21483 1 1 1 21489 1 1 1 21510 1 1 1 21662 1 1 1 21560 1 1 1 21576 1
   1 1 21608 1 1 1 21666 1 1 1 21750 1 1 1 21776 1 1 1 21843 1 1 1 21859 1 2 0 21892 2 1 1
   21913 1 1 1 21931 1 1 1 21939 1 1 1 21954 1 1 1 22294 1 1 1 22022 1 1 1 22295 1 1 1 22097 1
   1 1 22132 1 1 1 20999 1 1 1 22766 1 1 1 22478 1 1 1 22516 1 1 1 22541 1 1 1 22411 1 1 1
   22578 1 1 1 22577 1 1 1 22700 1 1 1 136420 1 1 1 22770 1 1 1 22775 1 1 1 22790 1 1 1 22810 1
   1 1 22818 1 1 1 22882 1 1 1 136872 1 1 1 136938 1 1 1 23020 1 1 1 23067 1 1 1 23079 1 1 1
   23000 1 1 1 23142 1 1 1 14062 1 1 1 14076 1 1 1 23304 1 2 0 23358 2 1 1 137672 1 1 1 23491 1
   1 1 23512 1 1 1 23527 1 1 1 23539 1 1 1 138008 1 1 1 23551 1 1 1 23558 1 1 1 24403 1 1 1
   23586 1 1 1 14209 1 1 1 23648 1 1 1 23662 1 1 1 23744 1 1 1 23693 1 1 1 138724 1 1 1 23875 1
   1 1 138726 1 1 1 23918 1 1 1 23915 1 1 1 23932 1 2 1 24033 2 1 1 14383 1 1 1 24061 1 1 1
   24104 1 1 1 24125 1 1 1 24169 1 1 1 14434 1 1 1 139651 1 1 1 14460 1 1 1 24240 1 1 1 24243 1
   1 1 24246 1 1 1 24266 1 1 1 172946 1 1 1 24318 1 2 0 140081 2 1 1 33281 1 2 0 24354 2 1 1
   14535 1 1 1 144056 1 1 1 156122 1 1 1 24418 1 1 1 24427 1 1 1 14563 1 1 1 24474 1 1 1 24525
   1 1 1 24535 1 1 1 24569 1 1 1 24705 1 1 1 14650 1 1 1 14620 1 1 1 24724 1 1 1 141012 1 1 1
   24775 1 1 1 24904 1 1 1 24908 1 1 1 24910 1 1 1 24908 1 1 1 24954 1 1 1 24974 1 1 1 25010 1
   1 1 24996 1 1 1 25007 1 1 1 25054 1 1 1 25074 1 1 1 25078 1 1 1 25104 1 1 1 25115 1 1 1
   25181 1 1 1 25265 1 1 1 25300 1 1 1 25424 1 1 1 142092 1 1 1 25405 1 1 1 25340 1 1 1 25448 1
   1 1 25475 1 1 1 25572 1 1 1 142321 1 1 1 25634 1 1 1 25541 1 1 1 25513 1 1 1 14894 1 1 1
   25705 1 1 1 25726 1 1 1 25757 1 1 1 25719 1 1 1 14956 1 1 1 25935 1 1 1 25964 1 1 1 143370 1
   1 1 26083 1 1 1 26360 1 1 1 26185 1 1 1 15129 1 1 1 26257 1 1 1 15112 1 1 1 15076 1 1 1
   20882 1 1 1 20885 1 1 1 26368 1 1 1 26268 1 1 1 32941 1 1 1 17369 1 1 1 26391 1 1 1 26395 1
   1 1 26401 1 1 1 26462 1 1 1 26451 1 1 1 144323 1 1 1 15177 1 1 1 26618 1 1 1 26501 1 1 1
   26706 1 1 1 26757 1 1 1 144493 1 1 1 26766 1 1 1 26655 1 1 1 26900 1 1 1 15261 1 1 1 26946 1
   1 1 27043 1 1 1 27114 1 1 1 27304 1 1 1 145059 1 1 1 27355 1 1 1 15384 1 1 1 27425 1 1 1
   145575 1 1 1 27476 1 1 1 15438 1 1 1 27506 1 1 1 27551 1 2 1 27578 2 1 1 146061 1 1 1 138507
   1 1 1 146170 1 1 1 27726 1 1 1 146620 1 1 1 27839 1 1 1 27853 1 1 1 27751 1 1 1 27926 1 1 1
   27966 1 1 1 28023 1 1 1 27969 1 1 1 28009 1 1 1 28024 1 1 1 28037 1 1 1 146718 1 1 1 27956 1
   1 1 28207 1 1 1 28270 1 1 1 15667 1 1 1 28363 1 1 1 28359 1 1 1 147153 1 1 1 28153 1 1 1
   28526 1 1 1 147294 1 1 1 147342 1 1 1 28614 1 1 1 28729 1 1 1 28702 1 1 1 28699 1 1 1 15766
   1 1 1 28746 1 1 1 28797 1 1 1 28791 1 1 1 28845 1 1 1 132389 1 1 1 28997 1 1 1 148067 1 1 1
   29084 1 1 1 148395 1 1 1 29224 1 1 1 29237 1 1 1 29264 1 1 1 149000 1 1 1 29312 1 1 1 29333
   1 1 1 149301 1 1 1 149524 1 1 1 29562 1 1 1 29579 1 1 1 16044 1 1 1 29605 1 2 0 16056 2 1 1
   29767 1 1 1 29788 1 1 1 29809 1 1 1 29829 1 1 1 29898 1 1 1 16155 1 1 1 29988 1 1 1 150582 1
   1 1 30014 1 1 1 150674 1 1 1 30064 1 1 1 139679 1 1 1 30224 1 1 1 151457 1 1 1 151480 1 1 1
   151620 1 1 1 16380 1 1 1 16392 1 1 1 30452 1 1 1 151795 1 1 1 151794 1 1 1 151833 1 1 1
   151859 1 2 1 30494 2 1 1 30495 1 1 1 30538 1 1 1 16441 1 1 1 30603 1 1 1 16454 1 1 1 16534 1
   1 1 152605 1 1 1 30798 1 1 1 30860 1 1 1 30924 1 1 1 16611 1 1 1 153126 1 1 1 31062 1 1 1
   153242 1 1 1 153285 1 1 1 31119 1 1 1 31211 1 1 1 16687 1 1 1 31296 1 1 1 31306 1 1 1 31311
   1 1 1 153980 1 2 0 154279 2 1 1 31470 1 1 1 16898 1 1 1 154539 1 1 1 31686 1 1 1 31689 1 1 1
   16935 1 1 1 154752 1 1 1 31954 1 1 1 17056 1 1 1 31976 1 1 1 31971 1 1 1 32000 1 1 1 155526
   1 1 1 32099 1 1 1 17153 1 1 1 32199 1 1 1 32258 1 1 1 32325 1 1 1 17204 1 1 1 156200 1 1 1
   156231 1 1 1 17241 1 1 1 156377 1 1 1 32634 1 1 1 156478 1 1 1 32661 1 1 1 32762 1 1 1 32773
   1 1 1 156890 1 1 1 156963 1 1 1 32864 1 1 1 157096 1 1 1 32880 1 1 1 144223 1 1 1 17365 1 1
   1 32946 1 1 1 33027 1 1 1 17419 1 1 1 33086 1 1 1 23221 1 1 1 157607 1 1 1 157621 1 1 1
   144275 1 1 1 144284 1 1 1 33281 1 1 1 33284 1 1 1 36766 1 1 1 17515 1 1 1 33425 1 1 1 33419
   1 1 1 33437 1 1 1 21171 1 1 1 33457 1 1 1 33459 1 1 1 33469 1 1 1 33510 1 1 1 158524 1 1 1
   33509 1 1 1 33565 1 1 1 33635 1 1 1 33709 1 1 1 33571 1 1 1 33725 1 1 1 33767 1 1 1 33879 1
   1 1 33619 1 1 1 33738 1 1 1 33740 1 1 1 33756 1 1 1 158774 1 1 1 159083 1 1 1 158933 1 1 1
   17707 1 1 1 34033 1 1 1 34035 1 1 1 34070 1 1 1 160714 1 1 1 34148 1 1 1 159532 1 1 1 17757
   1 1 1 17761 1 1 1 159665 1 1 1 159954 1 1 1 17771 1 1 1 34384 1 1 1 34396 1 1 1 34407 1 1 1
   34409 1 1 1 34473 1 1 1 34440 1 1 1 34574 1 1 1 34530 1 1 1 34681 1 1 1 34600 1 1 1 34667 1
   1 1 34694 1 1 1 17879 1 1 1 34785 1 1 1 34817 1 1 1 17913 1 1 1 34912 1 1 1 34915 1 1 1
   161383 1 1 1 35031 1 1 1 35038 1 1 1 17973 1 1 1 35066 1 1 1 13499 1 1 1 161966 1 1 1 162150
   1 1 1 18110 1 1 1 18119 1 1 1 35488 1 1 1 35565 1 1 1 35722 1 1 1 35925 1 1 1 162984 1 1 1
   36011 1 1 1 36033 1 1 1 36123 1 1 1 36215 1 1 1 163631 1 1 1 133124 1 1 1 36299 1 1 1 36284
   1 1 1 36336 1 1 1 133342 1 1 1 36564 1 1 1 36664 1 1 1 165330 1 1 1 165357 1 1 1 37012 1 1 1
   37105 1 1 1 37137 1 1 1 165678 1 1 1 37147 1 1 1 37432 1 2 1 37591 2 1 1 37500 1 1 1 37881 1
   1 1 37909 1 1 1 166906 1 1 1 38283 1 1 1 18837 1 1 1 38327 1 1 1 167287 1 1 1 18918 1 1 1
   38595 1 1 1 23986 1 1 1 38691 1 1 1 168261 1 1 1 168474 1 1 1 19054 1 1 1 19062 1 1 1 38880
   1 1 1 168970 1 1 1 19122 1 1 1 169110 1 2 0 38923 2 1 1 38953 1 1 1 169398 1 1 1 39138 1 1 1
   19251 1 1 1 39209 1 1 1 39335 1 1 1 39362 1 1 1 39422 1 1 1 19406 1 1 1 170800 1 1 1 39698 1
   1 1 40000 1 1 1 40189 1 1 1 19662 1 1 1 19693 1 1 1 40295 1 1 1 172238 1 1 1 19704 1 1 1
   172293 1 1 1 172558 1 1 1 172689 1 1 1 40635 1 1 1 19798 1 1 1 40697 1 1 1 40702 1 1 1 40709
   1 1 1 40719 1 1 1 40726 1 1 1 40763 1 1 1 173568"

/-- Reads rows of the distance from the row before, a count, and as many code points. The
characters of the current row that have been read stand in `row`, and `pending` are to follow. -/
def replacedTextsFrom : Nat → List Int → Option Text → Nat → List (Nat × Text)
  | code, gap :: count :: rest, none, _ =>
    replacedTextsFrom (code + gap.toNat) rest (some []) count.toNat
  | code, next :: rest, some row, pending + 1 =>
    let row := row ++ [Char.ofNat next.toNat]
    if pending = 0 then (code, row) :: replacedTextsFrom code rest none 0
    else replacedTextsFrom code rest (some row) pending
  | _, _, _, _ => []

/-- The characters that several characters replace. -/
def replacedTexts : List (Nat × Text) :=
  replacedTextsFrom 0 (numbersIn longReplacements) none 0
where
  longReplacements : String :=
    "306 2 73 74 1 2 105 106 12 2 76 183 1 2 108 183 9 2 700 110 123 2 68 381 1 2 68 382 1 2 100
   382 1 2 76 74 1 2 76 106 1 2 108 106 1 2 78 74 1 2 78 106 1 2 110 106 37 2 68 90 1 2 68 122
   1 2 100 122 337 2 776 769 579 2 1381 1410 238 2 1575 1652 1 2 1608 1652 1 2 1735 1652 1 2
   1610 1652 736 2 2325 2364 1 2 2326 2364 1 2 2327 2364 1 2 2332 2364 1 2 2337 2364 1 2 2338
   2364 1 2 2347 2364 1 2 2351 2364 125 2 2465 2492 1 2 2466 2492 2 2 2479 2492 84 2 2610 2620
   3 2 2616 2620 35 2 2582 2620 1 2 2583 2620 1 2 2588 2620 3 2 2603 2620 254 2 2849 2876 1 2
   2850 2876 726 2 3661 3634 128 2 3789 3762 41 2 3755 3737 1 2 3755 3745 102 2 3906 4023 10 2
   3916 4023 5 2 3921 4023 5 2 3926 4023 5 2 3931 4023 13 2 3904 4021 10 2 3953 3954 2 2 3953
   3956 1 2 4018 3968 1 3 4018 3953 3968 1 2 4019 3968 1 3 4019 3953 3968 8 2 3953 3968 18 2
   3986 4023 10 2 3996 4023 5 2 4001 4023 5 2 4006 4023 5 2 4011 4023 13 2 3984 4021 3809 2 97
   702 711 2 73 73 1 3 73 73 73 1 2 73 86 2 2 86 73 1 3 86 73 73 1 4 86 73 73 73 1 2 73 88 2 2
   88 73 1 3 88 73 73 6 2 105 105 1 3 105 105 105 1 2 105 118 2 2 118 105 1 3 118 105 105 1 4
   118 105 105 105 1 2 105 120 2 2 120 105 1 3 120 105 105 3876 2 12424 12426 96 2 12467 12488
   51713 2 102 102 1 2 102 105 1 2 102 108 1 3 102 102 105 1 3 102 102 108 1 2 115 116 1 2 115
   116 13 2 1396 1398 1 2 1396 1381 1 2 1396 1387 1 2 1406 1398 1 2 1396 1389 6 2 1497 1460 2 2
   1522 1463 11 2 1513 1473 1 2 1513 1474 1 3 1513 1468 1473 1 3 1513 1468 1474 1 2 1488 1463 1
   2 1488 1464 1 2 1488 1468 1 2 1489 1468 1 2 1490 1468 1 2 1491 1468 1 2 1492 1468 1 2 1493
   1468 1 2 1494 1468 2 2 1496 1468 1 2 1497 1468 1 2 1498 1468 1 2 1499 1468 1 2 1500 1468 2 2
   1502 1468 2 2 1504 1468 1 2 1505 1468 2 2 1507 1468 1 2 1508 1468 2 2 1510 1468 1 2 1511
   1468 1 2 1512 1468 1 2 1513 1468 1 2 1514 1468 1 2 1493 1465 1 2 1489 1471 1 2 1499 1471 1 2
   1508 1471 1 2 1488 1500 142 2 1735 1652 13 2 1574 1575 1 2 1574 1575 1 2 1574 1749 1 2 1574
   1749 1 2 1574 1608 1 2 1574 1608 1 2 1574 1735 1 2 1574 1735 1 2 1574 1734 1 2 1574 1734 1 2
   1574 1736 1 2 1574 1736 1 2 1574 1744 1 2 1574 1744 1 2 1574 1744 1 2 1574 1609 1 2 1574
   1609 1 2 1574 1609 5 2 1574 1580 1 2 1574 1581 1 2 1574 1605 1 2 1574 1609 1 2 1574 1610 1 2
   1576 1580 1 2 1576 1581 1 2 1576 1582 1 2 1576 1605 1 2 1576 1609 1 2 1576 1610 1 2 1578
   1580 1 2 1578 1581 1 2 1578 1582 1 2 1578 1605 1 2 1578 1609 1 2 1578 1610 1 2 1579 1580 1 2
   1579 1605 1 2 1579 1609 1 2 1579 1610 1 2 1580 1581 1 2 1580 1605 1 2 1581 1580 1 2 1581
   1605 1 2 1582 1580 1 2 1582 1581 1 2 1582 1605 1 2 1587 1580 1 2 1587 1581 1 2 1587 1582 1 2
   1587 1605 1 2 1589 1581 1 2 1589 1605 1 2 1590 1580 1 2 1590 1581 1 2 1590 1582 1 2 1590
   1605 1 2 1591 1581 1 2 1591 1605 1 2 1592 1605 1 2 1593 1580 1 2 1593 1605 1 2 1594 1580 1 2
   1594 1605 1 2 1601 1580 1 2 1601 1581 1 2 1601 1582 1 2 1601 1605 1 2 1601 1609 1 2 1601
   1610 1 2 1602 1581 1 2 1602 1605 1 2 1602 1609 1 2 1602 1610 1 2 1603 1575 1 2 1603 1580 1 2
   1603 1581 1 2 1603 1582 1 2 1603 1604 1 2 1603 1605 1 2 1603 1609 1 2 1603 1610 1 2 1604
   1580 1 2 1604 1581 1 2 1604 1582 1 2 1604 1605 1 2 1604 1609 1 2 1604 1610 1 2 1605 1580 1 2
   1605 1581 1 2 1605 1582 1 2 1605 1605 1 2 1605 1609 1 2 1605 1610 1 2 1606 1580 1 2 1606
   1581 1 2 1606 1582 1 2 1606 1605 1 2 1606 1609 1 2 1606 1610 1 2 1607 1580 1 2 1607 1605 1 2
   1607 1609 1 2 1607 1610 1 2 1610 1580 1 2 1610 1581 1 2 1610 1582 1 2 1610 1605 1 2 1610
   1609 1 2 1610 1610 1 2 1584 1648 1 2 1585 1648 1 2 1609 1648 7 2 1574 1585 1 2 1574 1586 1 2
   1574 1605 1 2 1574 1606 1 2 1574 1609 1 2 1574 1610 1 2 1576 1585 1 2 1576 1586 1 2 1576
   1605 1 2 1576 1606 1 2 1576 1609 1 2 1576 1610 1 2 1578 1585 1 2 1578 1586 1 2 1578 1605 1 2
   1578 1606 1 2 1578 1609 1 2 1578 1610 1 2 1579 1585 1 2 1579 1586 1 2 1579 1605 1 2 1579
   1606 1 2 1579 1609 1 2 1579 1610 1 2 1601 1609 1 2 1601 1610 1 2 1602 1609 1 2 1602 1610 1 2
   1603 1575 1 2 1603 1604 1 2 1603 1605 1 2 1603 1609 1 2 1603 1610 1 2 1604 1605 1 2 1604
   1609 1 2 1604 1610 1 2 1605 1575 1 2 1605 1605 1 2 1606 1585 1 2 1606 1586 1 2 1606 1605 1 2
   1606 1606 1 2 1606 1609 1 2 1606 1610 1 2 1609 1648 1 2 1610 1585 1 2 1610 1586 1 2 1610
   1605 1 2 1610 1606 1 2 1610 1609 1 2 1610 1610 1 2 1574 1580 1 2 1574 1581 1 2 1574 1582 1 2
   1574 1605 1 2 1574 1607 1 2 1576 1580 1 2 1576 1581 1 2 1576 1582 1 2 1576 1605 1 2 1576
   1607 1 2 1578 1580 1 2 1578 1581 1 2 1578 1582 1 2 1578 1605 1 2 1578 1607 1 2 1579 1605 1 2
   1580 1581 1 2 1580 1605 1 2 1581 1580 1 2 1581 1605 1 2 1582 1580 1 2 1582 1605 1 2 1587
   1580 1 2 1587 1581 1 2 1587 1582 1 2 1587 1605 1 2 1589 1581 1 2 1589 1582 1 2 1589 1605 1 2
   1590 1580 1 2 1590 1581 1 2 1590 1582 1 2 1590 1605 1 2 1591 1581 1 2 1592 1605 1 2 1593
   1580 1 2 1593 1605 1 2 1594 1580 1 2 1594 1605 1 2 1601 1580 1 2 1601 1581 1 2 1601 1582 1 2
   1601 1605 1 2 1602 1581 1 2 1602 1605 1 2 1603 1580 1 2 1603 1581 1 2 1603 1582 1 2 1603
   1604 1 2 1603 1605 1 2 1604 1580 1 2 1604 1581 1 2 1604 1582 1 2 1604 1605 1 2 1604 1607 1 2
   1605 1580 1 2 1605 1581 1 2 1605 1582 1 2 1605 1605 1 2 1606 1580 1 2 1606 1581 1 2 1606
   1582 1 2 1606 1605 1 2 1606 1607 1 2 1607 1580 1 2 1607 1605 1 2 1607 1648 1 2 1610 1580 1 2
   1610 1581 1 2 1610 1582 1 2 1610 1605 1 2 1610 1607 1 2 1574 1605 1 2 1574 1607 1 2 1576
   1605 1 2 1576 1607 1 2 1578 1605 1 2 1578 1607 1 2 1579 1605 1 2 1579 1607 1 2 1587 1605 1 2
   1587 1607 1 2 1588 1605 1 2 1588 1607 1 2 1603 1604 1 2 1603 1605 1 2 1604 1605 1 2 1606
   1605 1 2 1606 1607 1 2 1610 1605 1 2 1610 1607 1 3 1600 1614 1617 1 3 1600 1615 1617 1 3
   1600 1616 1617 1 2 1591 1609 1 2 1591 1610 1 2 1593 1609 1 2 1593 1610 1 2 1594 1609 1 2
   1594 1610 1 2 1587 1609 1 2 1587 1610 1 2 1588 1609 1 2 1588 1610 1 2 1581 1609 1 2 1581
   1610 1 2 1580 1609 1 2 1580 1610 1 2 1582 1609 1 2 1582 1610 1 2 1589 1609 1 2 1589 1610 1 2
   1590 1609 1 2 1590 1610 1 2 1588 1580 1 2 1588 1581 1 2 1588 1582 1 2 1588 1605 1 2 1588
   1585 1 2 1587 1585 1 2 1589 1585 1 2 1590 1585 1 2 1591 1609 1 2 1591 1610 1 2 1593 1609 1 2
   1593 1610 1 2 1594 1609 1 2 1594 1610 1 2 1587 1609 1 2 1587 1610 1 2 1588 1609 1 2 1588
   1610 1 2 1581 1609 1 2 1581 1610 1 2 1580 1609 1 2 1580 1610 1 2 1582 1609 1 2 1582 1610 1 2
   1589 1609 1 2 1589 1610 1 2 1590 1609 1 2 1590 1610 1 2 1588 1580 1 2 1588 1581 1 2 1588
   1582 1 2 1588 1605 1 2 1588 1585 1 2 1587 1585 1 2 1589 1585 1 2 1590 1585 1 2 1588 1580 1 2
   1588 1581 1 2 1588 1582 1 2 1588 1605 1 2 1587 1607 1 2 1588 1607 1 2 1591 1605 1 2 1587
   1580 1 2 1587 1581 1 2 1587 1582 1 2 1588 1580 1 2 1588 1581 1 2 1588 1582 1 2 1591 1605 1 2
   1592 1605 1 2 1575 1611 1 2 1575 1611 19 3 1578 1580 1605 1 3 1578 1581 1580 1 3 1578 1581
   1580 1 3 1578 1581 1605 1 3 1578 1582 1605 1 3 1578 1605 1580 1 3 1578 1605 1581 1 3 1578
   1605 1582 1 3 1580 1605 1581 1 3 1580 1605 1581 1 3 1581 1605 1610 1 3 1581 1605 1609 1 3
   1587 1581 1580 1 3 1587 1580 1581 1 3 1587 1580 1609 1 3 1587 1605 1581 1 3 1587 1605 1581 1
   3 1587 1605 1580 1 3 1587 1605 1605 1 3 1587 1605 1605 1 3 1589 1581 1581 1 3 1589 1581 1581
   1 3 1589 1605 1605 1 3 1588 1581 1605 1 3 1588 1581 1605 1 3 1588 1580 1610 1 3 1588 1605
   1582 1 3 1588 1605 1582 1 3 1588 1605 1605 1 3 1588 1605 1605 1 3 1590 1581 1609 1 3 1590
   1582 1605 1 3 1590 1582 1605 1 3 1591 1605 1581 1 3 1591 1605 1581 1 3 1591 1605 1605 1 3
   1591 1605 1610 1 3 1593 1580 1605 1 3 1593 1605 1605 1 3 1593 1605 1605 1 3 1593 1605 1609 1
   3 1594 1605 1605 1 3 1594 1605 1610 1 3 1594 1605 1609 1 3 1601 1582 1605 1 3 1601 1582 1605
   1 3 1602 1605 1581 1 3 1602 1605 1605 1 3 1604 1581 1605 1 3 1604 1581 1610 1 3 1604 1581
   1609 1 3 1604 1580 1580 1 3 1604 1580 1580 1 3 1604 1582 1605 1 3 1604 1582 1605 1 3 1604
   1605 1581 1 3 1604 1605 1581 1 3 1605 1581 1580 1 3 1605 1581 1605 1 3 1605 1581 1610 1 3
   1605 1580 1581 1 3 1605 1580 1605 1 3 1605 1582 1580 1 3 1605 1582 1605 3 3 1605 1580 1582 1
   3 1607 1605 1580 1 3 1607 1605 1605 1 3 1606 1581 1605 1 3 1606 1581 1609 1 3 1606 1580 1605
   1 3 1606 1580 1605 1 3 1606 1580 1609 1 3 1606 1605 1610 1 3 1606 1605 1609 1 3 1610 1605
   1605 1 3 1610 1605 1605 1 3 1576 1582 1610 1 3 1578 1580 1610 1 3 1578 1580 1609 1 3 1578
   1582 1610 1 3 1578 1582 1609 1 3 1578 1605 1610 1 3 1578 1605 1609 1 3 1580 1605 1610 1 3
   1580 1581 1609 1 3 1580 1605 1609 1 3 1587 1582 1609 1 3 1589 1581 1610 1 3 1588 1581 1610 1
   3 1590 1581 1610 1 3 1604 1580 1610 1 3 1604 1605 1610 1 3 1610 1581 1610 1 3 1610 1580 1610
   1 3 1610 1605 1610 1 3 1605 1605 1610 1 3 1602 1605 1610 1 3 1606 1581 1610 1 3 1602 1605
   1581 1 3 1604 1581 1605 1 3 1593 1605 1610 1 3 1603 1605 1610 1 3 1606 1580 1581 1 3 1605
   1582 1610 1 3 1604 1580 1605 1 3 1603 1605 1605 1 3 1604 1580 1605 1 3 1606 1580 1581 1 3
   1580 1581 1610 1 3 1581 1580 1610 1 3 1605 1580 1610 1 3 1601 1605 1610 1 3 1576 1581 1610 1
   3 1603 1605 1605 1 3 1593 1580 1605 1 3 1589 1605 1605 1 3 1587 1582 1610 1 3 1606 1580 1610
   41 3 1589 1604 1746 1 3 1602 1604 1746 1 4 1575 1604 1604 1607 1 4 1575 1603 1576 1585 1 4
   1605 1581 1605 1583 1 4 1589 1604 1593 1605 1 4 1585 1587 1608 1604 1 4 1593 1604 1610 1607
   1 4 1608 1587 1604 1605 1 3 1589 1604 1609 120 2 1600 1611 6 2 1600 1614 2 2 1600 1615 2 2
   1600 1616 2 2 1600 1617 2 2 1600 1618 118 2 1604 1570 1 2 1604 1570 1 2 1604 1571 1 2 1604
   1571 1 2 1604 1573 1 2 1604 1573 1 2 1604 1575 1 2 1604 1575"

/-- A letter that consists of a letter and what is added to it. -/
structure Composite where
  whole : Nat
  base : Nat
  added : Nat

/-- Reads composites from rows of three numbers: the distance from the one before, and the parts. -/
def compositesFrom : Nat → List Int → List Composite
  | start, gap :: base :: added :: rest =>
    let whole := start + gap.toNat
    ⟨whole, base.toNat, added.toNat⟩ :: compositesFrom whole rest
  | _, _ => []

/-- The composite letters. -/
def composites : List Composite := compositesFrom 0 <| numbersIn
  "192 65 768 1 65 769 1 65 770 1 65 771 1 65 776 1 65 778 2 67 807 1 69 768 1 69 769 1 69 770
   1 69 776 1 73 768 1 73 769 1 73 770 1 73 776 2 78 771 1 79 768 1 79 769 1 79 770 1 79 771 1
   79 776 3 85 768 1 85 769 1 85 770 1 85 776 1 89 769 3 97 768 1 97 769 1 97 770 1 97 771 1 97
   776 1 97 778 2 99 807 1 101 768 1 101 769 1 101 770 1 101 776 1 105 768 1 105 769 1 105 770
   1 105 776 2 110 771 1 111 768 1 111 769 1 111 770 1 111 771 1 111 776 3 117 768 1 117 769 1
   117 770 1 117 776 1 121 769 2 121 776 1 65 772 1 97 772 1 65 774 1 97 774 1 65 808 1 97 808
   1 67 769 1 99 769 1 67 770 1 99 770 1 67 775 1 99 775 1 67 780 1 99 780 1 68 780 1 100 780 3
   69 772 1 101 772 1 69 774 1 101 774 1 69 775 1 101 775 1 69 808 1 101 808 1 69 780 1 101 780
   1 71 770 1 103 770 1 71 774 1 103 774 1 71 775 1 103 775 1 71 807 1 103 807 1 72 770 1 104
   770 3 73 771 1 105 771 1 73 772 1 105 772 1 73 774 1 105 774 1 73 808 1 105 808 1 73 775 4
   74 770 1 106 770 1 75 807 1 107 807 2 76 769 1 108 769 1 76 807 1 108 807 1 76 780 1 108 780
   5 78 769 1 110 769 1 78 807 1 110 807 1 78 780 1 110 780 4 79 772 1 111 772 1 79 774 1 111
   774 1 79 779 1 111 779 3 82 769 1 114 769 1 82 807 1 114 807 1 82 780 1 114 780 1 83 769 1
   115 769 1 83 770 1 115 770 1 83 807 1 115 807 1 83 780 1 115 780 1 84 807 1 116 807 1 84 780
   1 116 780 3 85 771 1 117 771 1 85 772 1 117 772 1 85 774 1 117 774 1 85 778 1 117 778 1 85
   779 1 117 779 1 85 808 1 117 808 1 87 770 1 119 770 1 89 770 1 121 770 1 89 776 1 90 769 1
   122 769 1 90 775 1 122 775 1 90 780 1 122 780 34 79 795 1 111 795 14 85 795 1 117 795 29 65
   780 1 97 780 1 73 780 1 105 780 1 79 780 1 111 780 1 85 780 1 117 780 1 220 772 1 252 772 1
   220 769 1 252 769 1 220 780 1 252 780 1 220 768 1 252 768 2 196 772 1 228 772 1 550 772 1
   551 772 1 198 772 1 230 772 3 71 780 1 103 780 1 75 780 1 107 780 1 79 808 1 111 808 1 490
   772 1 491 772 1 439 780 1 658 780 1 106 780 4 71 769 1 103 769 3 78 768 1 110 768 1 197 769
   1 229 769 1 198 769 1 230 769 1 216 769 1 248 769 1 65 783 1 97 783 1 65 785 1 97 785 1 69
   783 1 101 783 1 69 785 1 101 785 1 73 783 1 105 783 1 73 785 1 105 785 1 79 783 1 111 783 1
   79 785 1 111 785 1 82 783 1 114 783 1 82 785 1 114 785 1 85 783 1 117 783 1 85 785 1 117 785
   1 83 806 1 115 806 1 84 806 1 116 806 3 72 780 1 104 780 7 65 775 1 97 775 1 69 807 1 101
   807 1 214 772 1 246 772 1 213 772 1 245 772 1 79 775 1 111 775 1 558 772 1 559 772 1 89 772
   1 121 772 339 913 769 2 917 769 1 919 769 1 921 769 2 927 769 2 933 769 1 937 769 1 970 769
   26 921 776 1 933 776 1 945 769 1 949 769 1 951 769 1 953 769 1 971 769 26 953 776 1 965 776
   1 959 769 1 965 769 1 969 769 5 978 769 1 978 776 44 1045 768 1 1045 776 2 1043 769 4 1030
   776 5 1050 769 1 1048 768 1 1059 774 11 1048 774 32 1080 774 23 1077 768 1 1077 776 2 1075
   769 4 1110 776 5 1082 769 1 1080 768 1 1091 774 24 1140 783 1 1141 783 74 1046 774 1 1078
   774 14 1040 774 1 1072 774 1 1040 776 1 1072 776 3 1045 774 1 1077 774 3 1240 776 1 1241 776
   1 1046 776 1 1078 776 1 1047 776 1 1079 776 3 1048 772 1 1080 772 1 1048 776 1 1080 776 1
   1054 776 1 1086 776 3 1256 776 1 1257 776 1 1069 776 1 1101 776 1 1059 772 1 1091 772 1 1059
   776 1 1091 776 1 1059 779 1 1091 779 1 1063 776 1 1095 776 3 1067 776 1 1099 776 297 1575
   1619 1 1575 1620 1 1608 1620 1 1575 1621 1 1610 1620 154 1749 1620 2 1729 1620 17 1746 1620
   598 2344 2364 8 2352 2364 3 2355 2364 151 2503 2494 1 2503 2519 380 2887 2902 3 2887 2878 1
   2887 2903 72 2962 3031 54 3014 3006 1 3015 3006 1 3014 3031 124 3142 3158 120 3263 3285 7
   3270 3285 1 3270 3286 2 3270 3266 1 3274 3285 127 3398 3390 1 3399 3390 1 3398 3415 142 3545
   3530 2 3545 3535 1 3548 3530 1 3545 3551 584 4133 4142 2784 6917 6965 2 6919 6965 2 6921
   6965 2 6923 6965 2 6925 6965 4 6929 6965 41 6970 6965 2 6972 6965 3 6974 6965 1 6975 6965 2
   6978 6965 701 65 805 1 97 805 1 66 775 1 98 775 1 66 803 1 98 803 1 66 817 1 98 817 1 199
   769 1 231 769 1 68 775 1 100 775 1 68 803 1 100 803 1 68 817 1 100 817 1 68 807 1 100 807 1
   68 813 1 100 813 1 274 768 1 275 768 1 274 769 1 275 769 1 69 813 1 101 813 1 69 816 1 101
   816 1 552 774 1 553 774 1 70 775 1 102 775 1 71 772 1 103 772 1 72 775 1 104 775 1 72 803 1
   104 803 1 72 776 1 104 776 1 72 807 1 104 807 1 72 814 1 104 814 1 73 816 1 105 816 1 207
   769 1 239 769 1 75 769 1 107 769 1 75 803 1 107 803 1 75 817 1 107 817 1 76 803 1 108 803 1
   7734 772 1 7735 772 1 76 817 1 108 817 1 76 813 1 108 813 1 77 769 1 109 769 1 77 775 1 109
   775 1 77 803 1 109 803 1 78 775 1 110 775 1 78 803 1 110 803 1 78 817 1 110 817 1 78 813 1
   110 813 1 213 769 1 245 769 1 213 776 1 245 776 1 332 768 1 333 768 1 332 769 1 333 769 1 80
   769 1 112 769 1 80 775 1 112 775 1 82 775 1 114 775 1 82 803 1 114 803 1 7770 772 1 7771 772
   1 82 817 1 114 817 1 83 775 1 115 775 1 83 803 1 115 803 1 346 775 1 347 775 1 352 775 1 353
   775 1 7778 775 1 7779 775 1 84 775 1 116 775 1 84 803 1 116 803 1 84 817 1 116 817 1 84 813
   1 116 813 1 85 804 1 117 804 1 85 816 1 117 816 1 85 813 1 117 813 1 360 769 1 361 769 1 362
   776 1 363 776 1 86 771 1 118 771 1 86 803 1 118 803 1 87 768 1 119 768 1 87 769 1 119 769 1
   87 776 1 119 776 1 87 775 1 119 775 1 87 803 1 119 803 1 88 775 1 120 775 1 88 776 1 120 776
   1 89 775 1 121 775 1 90 770 1 122 770 1 90 803 1 122 803 1 90 817 1 122 817 1 104 817 1 116
   776 1 119 778 1 121 778 2 383 775 5 65 803 1 97 803 1 65 777 1 97 777 1 194 769 1 226 769 1
   194 768 1 226 768 1 194 777 1 226 777 1 194 771 1 226 771 1 7840 770 1 7841 770 1 258 769 1
   259 769 1 258 768 1 259 768 1 258 777 1 259 777 1 258 771 1 259 771 1 7840 774 1 7841 774 1
   69 803 1 101 803 1 69 777 1 101 777 1 69 771 1 101 771 1 202 769 1 234 769 1 202 768 1 234
   768 1 202 777 1 234 777 1 202 771 1 234 771 1 7864 770 1 7865 770 1 73 777 1 105 777 1 73
   803 1 105 803 1 79 803 1 111 803 1 79 777 1 111 777 1 212 769 1 244 769 1 212 768 1 244 768
   1 212 777 1 244 777 1 212 771 1 244 771 1 7884 770 1 7885 770 1 416 769 1 417 769 1 416 768
   1 417 768 1 416 777 1 417 777 1 416 771 1 417 771 1 416 803 1 417 803 1 85 803 1 117 803 1
   85 777 1 117 777 1 431 769 1 432 769 1 431 768 1 432 768 1 431 777 1 432 777 1 431 771 1 432
   771 1 431 803 1 432 803 1 89 768 1 121 768 1 89 803 1 121 803 1 89 777 1 121 777 1 89 771 1
   121 771 7 945 787 1 945 788 1 7936 768 1 7937 768 1 7936 769 1 7937 769 1 7936 834 1 7937
   834 1 913 787 1 913 788 1 7944 768 1 7945 768 1 7944 769 1 7945 769 1 7944 834 1 7945 834 1
   949 787 1 949 788 1 7952 768 1 7953 768 1 7952 769 1 7953 769 3 917 787 1 917 788 1 7960 768
   1 7961 768 1 7960 769 1 7961 769 3 951 787 1 951 788 1 7968 768 1 7969 768 1 7968 769 1 7969
   769 1 7968 834 1 7969 834 1 919 787 1 919 788 1 7976 768 1 7977 768 1 7976 769 1 7977 769 1
   7976 834 1 7977 834 1 953 787 1 953 788 1 7984 768 1 7985 768 1 7984 769 1 7985 769 1 7984
   834 1 7985 834 1 921 787 1 921 788 1 7992 768 1 7993 768 1 7992 769 1 7993 769 1 7992 834 1
   7993 834 1 959 787 1 959 788 1 8000 768 1 8001 768 1 8000 769 1 8001 769 3 927 787 1 927 788
   1 8008 768 1 8009 768 1 8008 769 1 8009 769 3 965 787 1 965 788 1 8016 768 1 8017 768 1 8016
   769 1 8017 769 1 8016 834 1 8017 834 2 933 788 2 8025 768 2 8025 769 2 8025 834 1 969 787 1
   969 788 1 8032 768 1 8033 768 1 8032 769 1 8033 769 1 8032 834 1 8033 834 1 937 787 1 937
   788 1 8040 768 1 8041 768 1 8040 769 1 8041 769 1 8040 834 1 8041 834 1 945 768 2 949 768 2
   951 768 2 953 768 2 959 768 2 965 768 2 969 768 4 7936 837 1 7937 837 1 7938 837 1 7939 837
   1 7940 837 1 7941 837 1 7942 837 1 7943 837 1 7944 837 1 7945 837 1 7946 837 1 7947 837 1
   7948 837 1 7949 837 1 7950 837 1 7951 837 1 7968 837 1 7969 837 1 7970 837 1 7971 837 1 7972
   837 1 7973 837 1 7974 837 1 7975 837 1 7976 837 1 7977 837 1 7978 837 1 7979 837 1 7980 837
   1 7981 837 1 7982 837 1 7983 837 1 8032 837 1 8033 837 1 8034 837 1 8035 837 1 8036 837 1
   8037 837 1 8038 837 1 8039 837 1 8040 837 1 8041 837 1 8042 837 1 8043 837 1 8044 837 1 8045
   837 1 8046 837 1 8047 837 1 945 774 1 945 772 1 8048 837 1 945 837 1 940 837 2 945 834 1
   8118 837 1 913 774 1 913 772 1 913 768 2 913 837 6 8052 837 1 951 837 1 942 837 2 951 834 1
   8134 837 1 917 768 2 919 768 2 919 837 4 953 774 1 953 772 1 970 768 4 953 834 1 970 834 1
   921 774 1 921 772 1 921 768 6 965 774 1 965 772 1 971 768 2 961 787 1 961 788 1 965 834 1
   971 834 1 933 774 1 933 772 1 933 768 2 929 788 6 8060 837 1 969 837 1 974 837 2 969 834 1
   8182 837 1 927 768 2 937 768 2 937 837 4176 12363 12441 2 12365 12441 2 12367 12441 2 12369
   12441 2 12371 12441 2 12373 12441 2 12375 12441 2 12377 12441 2 12379 12441 2 12381 12441 2
   12383 12441 2 12385 12441 3 12388 12441 2 12390 12441 2 12392 12441 7 12399 12441 1 12399
   12442 2 12402 12441 1 12402 12442 2 12405 12441 1 12405 12442 2 12408 12441 1 12408 12442 2
   12411 12441 1 12411 12442 23 12358 12441 10 12445 12441 14 12459 12441 2 12461 12441 2 12463
   12441 2 12465 12441 2 12467 12441 2 12469 12441 2 12471 12441 2 12473 12441 2 12475 12441 2
   12477 12441 2 12479 12441 2 12481 12441 3 12484 12441 2 12486 12441 2 12488 12441 7 12495
   12441 1 12495 12442 2 12498 12441 1 12498 12442 2 12501 12441 1 12501 12442 2 12504 12441 1
   12504 12442 2 12507 12441 1 12507 12442 23 12454 12441 3 12527 12441 1 12528 12441 1 12529
   12441 1 12530 12441 4 12541 12441 57244 69785 69818 2 69787 69818 15 69797 69818 131 69937
   69927 1 69938 69927 540 70471 70462 1 70471 70487 367 70841 70842 1 70841 70832 2 70841
   70845 252 71096 71087 1 71097 71087 893 71989 71984"

/-- Characters `first`, `first + 1`, … (`count` of them) that are added to letters and are of one
class. -/
structure AddedRun where
  first : Nat
  count : Nat
  rank : Nat

/-- Reads runs from rows of three numbers: the distance from the run before, the count, the class.
-/
def addedRunsFrom : Nat → List Int → List AddedRun
  | start, gap :: count :: rank :: rest =>
    let first := start + gap.toNat
    ⟨first, count.toNat, rank.toNat⟩ :: addedRunsFrom first rest
  | _, _ => []

/-- The characters that are ordered behind a letter, with their classes. -/
def addedRuns : List AddedRun := addedRunsFrom 0 <| numbersIn
  "768 21 230 21 1 232 1 4 220 4 1 232 1 1 216 1 5 220 5 2 202 2 4 220 4 2 202 2 11 220 11 5 1
   5 4 220 4 8 230 8 1 240 1 1 230 1 3 220 3 3 230 3 2 220 3 3 230 3 4 220 4 1 230 1 1 232 1 2
   220 2 1 230 1 1 233 1 2 234 2 1 233 1 2 234 2 1 233 1 13 230 288 5 230 270 1 220 1 4 230 4 1
   220 1 3 230 3 1 222 1 1 220 1 6 230 6 6 220 6 2 230 2 1 220 1 2 230 2 1 222 1 1 228 1 1 230
   1 1 10 1 1 11 1 1 12 1 1 13 1 1 14 1 1 15 1 1 16 1 1 17 1 1 18 1 2 19 2 1 20 1 1 21 1 1 22 2
   1 23 2 1 24 1 1 25 2 1 230 1 1 220 2 1 18 73 8 230 8 1 30 1 1 31 1 1 32 49 1 27 1 1 28 1 1
   29 1 1 30 1 1 31 1 1 32 1 1 33 1 1 34 1 2 230 2 2 220 2 5 230 5 1 220 1 2 230 2 1 220 17 1
   35 102 7 230 9 4 230 4 1 220 1 1 230 3 2 230 3 1 220 1 2 230 2 1 220 36 1 36 31 1 230 1 1
   220 1 2 230 2 1 220 1 2 230 2 3 220 3 1 230 1 2 220 2 1 230 1 1 220 1 3 230 3 1 220 1 1 230
   1 1 220 1 1 230 1 1 220 1 1 230 1 1 220 1 2 230 162 7 230 7 1 220 1 1 230 10 1 220 25 4 230
   5 9 230 10 3 230 4 5 230 48 3 220 63 1 230 1 3 220 3 4 230 46 5 230 5 5 220 5 14 230 15 1
   220 1 2 230 2 1 220 1 2 230 2 1 220 1 3 230 3 3 220 3 1 27 1 1 28 1 1 29 1 3 230 3 1 220 1 2
   230 2 2 220 2 5 230 65 1 7 17 1 9 4 1 230 1 1 220 1 2 230 105 1 7 17 1 9 49 1 230 62 1 7 17
   1 9 111 1 7 17 1 9 111 1 7 17 1 9 128 1 9 111 1 7 17 1 9 8 1 84 1 1 91 102 1 7 17 1 9 110 2
   9 18 1 9 125 1 9 110 2 103 2 1 9 14 4 107 112 2 118 2 1 9 14 4 122 80 2 220 29 1 220 2 1 220
   2 1 216 56 1 129 1 1 130 2 1 132 6 4 130 6 1 130 2 2 230 2 1 9 2 2 230 64 1 220 113 1 7 2 2
   9 84 1 220 720 3 230 951 2 9 32 1 9 158 1 9 11 1 230 204 1 228 144 1 222 1 1 230 1 1 220 220
   1 230 1 1 220 72 1 9 21 8 230 10 1 220 49 5 230 5 6 220 6 2 230 2 1 220 2 2 220 2 2 230 2 2
   220 2 5 230 5 1 220 1 4 230 105 1 7 16 1 9 39 1 230 1 1 220 1 7 230 61 2 9 60 1 7 12 2 9 69
   1 7 153 3 230 4 1 1 1 5 220 5 2 230 2 4 220 4 1 230 2 7 1 11 1 220 7 1 230 4 2 230 200 2 230
   2 1 220 1 7 230 7 1 220 1 2 230 2 1 234 1 1 214 1 1 220 1 1 202 1 37 230 37 1 232 1 2 228 2
   1 220 1 1 218 1 1 230 1 1 233 1 1 220 1 1 230 1 1 220 721 2 230 2 2 1 2 4 230 4 3 1 3 2 230
   6 1 230 4 2 1 2 1 230 1 1 220 1 1 230 1 2 1 2 4 220 4 1 230 3071 3 230 144 1 9 97 32 230 586
   1 218 1 1 228 1 1 232 1 1 222 1 2 224 107 2 8 30166 1 230 5 10 230 42 2 230 82 2 230 278 1 9
   38 1 9 152 1 9 28 18 230 75 3 220 40 1 9 96 1 7 13 1 9 240 1 230 2 2 230 2 1 220 3 2 230 7 2
   230 3 1 230 53 1 9 247 1 9 20273 1 26 770 7 230 7 7 220 7 2 230 975 1 220 227 1 220 150 5
   230 1687 1 220 2 1 230 41 1 230 1 1 1 1 1 220 5 1 9 166 1 230 1 1 220 574 4 230 391 2 230
   155 2 220 2 3 230 3 1 220 1 1 230 1 4 220 53 1 230 1 1 220 1 1 230 1 1 220 193 1 9 42 1 9 15
   1 9 58 1 9 1 1 7 70 3 230 51 2 9 64 1 7 77 1 9 10 1 7 107 1 9 1 1 7 179 1 7 1 1 9 81 2 7 18
   1 9 25 7 230 10 5 230 210 1 9 4 1 7 24 1 230 100 1 9 1 1 7 252 1 9 1 1 7 127 1 9 119 1 9 1 1
   7 116 1 9 270 1 9 1 1 7 259 2 9 6 1 7 157 1 9 84 1 9 19 1 9 82 1 9 422 1 9 259 1 7 2 2 9 83
   1 9 19801 5 1 64 7 230 1216 2 6 19630 1 1 5319 2 216 2 3 1 6 1 226 1 5 216 13 8 220 10 5 230
   5 2 220 32 4 230 152 3 230 3518 7 230 8 17 230 19 7 230 8 2 230 3 5 230 266 7 230 382 1 230
   62 4 230 1508 7 220 116 6 230 6 1 7"

/-- The class of a character that is added to a letter; 0 for letters. -/
def rank (c : Char) : Nat :=
  if c.toNat < 128 then 0
  else
    ((addedRuns.find? fun r => r.first ≤ c.toNat && c.toNat < r.first + r.count).map
      (·.rank)).getD 0

/-- What replaces a character. -/
def replaced (c : Char) : Text :=
  if c.toNat < 128 then [c]
  else
    match replacedTexts.find? (·.1 == c.toNat) with
    | some (_, spelled) => spelled
    | none =>
      match replacedRuns.find? fun r => r.first ≤ c.toNat && c.toNat < r.first + r.count with
      | some r => [Char.ofNat (r.target + (c.toNat - r.first) * r.step)]
      | none => [c]

/-- The first syllable of Hangul. -/
def syllableStart : Nat := 0xAC00

/-- The first leading consonant of a syllable. -/
def leadStart : Nat := 0x1100

/-- The first vowel of a syllable. -/
def vowelStart : Nat := 0x1161

/-- The code point before the first trailing consonant of a syllable. -/
def trailStart : Nat := 0x11A7

/-- How many leading consonants a syllable can have. -/
def leadCount : Nat := 19

/-- How many vowels a syllable can have. -/
def vowelCount : Nat := 21

/-- How many trailing consonants a syllable can have, none being one of them. -/
def trailCount : Nat := 28

/-- A syllable of Hangul taken apart. -/
def syllableParts? (code : Nat) : Option Text :=
  let index := code - syllableStart
  if syllableStart ≤ code && index < leadCount * vowelCount * trailCount then
    let trail := index % trailCount
    some ([leadStart + index / (vowelCount * trailCount),
        vowelStart + index % (vowelCount * trailCount) / trailCount].map Char.ofNat
      ++ (if trail = 0 then [] else [Char.ofNat (trailStart + trail)]))
  else none

/-- How often the base of a composite can be a composite. -/
def compositeDepth : Nat := 4

/-- A character taken apart as often as the number says. -/
def takenApart : Nat → Char → Text
  | 0, c => [c]
  | n + 1, c =>
    if c.toNat < 128 then [c]
    else
      (syllableParts? c.toNat).getD <|
        (composites.find? (·.whole == c.toNat)).elim [c] fun found =>
          takenApart n (Char.ofNat found.base) ++ [Char.ofNat found.added]

/-- A character put in its place behind a letter, given what precedes it, last one first. -/
def putByRank (c : Char) : Text → Text
  | [] => [c]
  | d :: before =>
    if rank c < rank d && rank c != 0 then d :: putByRank c before else c :: d :: before

/-- The added characters behind each letter in the order of their classes. -/
def ordered (s : Text) : Text := (s.foldl (fun before c => putByRank c before) []).reverse

/-- Two characters as one. -/
def together? (first second : Char) : Option Char :=
  let a := first.toNat
  let b := second.toNat
  if leadStart ≤ a && a < leadStart + leadCount && vowelStart ≤ b && b < vowelStart + vowelCount then
    some (Char.ofNat
      (syllableStart + ((a - leadStart) * vowelCount + (b - vowelStart)) * trailCount))
  else if syllableStart ≤ a && a < syllableStart + leadCount * vowelCount * trailCount
      && (a - syllableStart) % trailCount = 0 && trailStart < b && b < trailStart + trailCount then
    some (Char.ofNat (a + (b - trailStart)))
  else
    (composites.find? fun c => c.base == a && c.added == b).map fun c => Char.ofNat c.whole

/-- Puts together what follows a letter: `skipped` are the added characters that could not be put
together with it, last one first. -/
def composedFrom (letter : Char) (skipped : Text) : Text → Text
  | [] => letter :: skipped.reverse
  | c :: rest =>
    let reachable := match skipped with
      | [] => true
      | d :: _ => rank d < rank c
    match (if reachable then together? letter c else none) with
    | some whole => composedFrom whole skipped rest
    | none =>
      if rank c = 0 then letter :: skipped.reverse ++ composedFrom c [] rest
      else composedFrom letter (c :: skipped) rest

/-- Letters and what is added to them, put together. -/
def composed : Text → Text
  | [] => []
  | c :: rest => if rank c = 0 then composedFrom c [] rest else c :: composed rest

/-- The form of a name in which it is compared with others. -/
def identifierForm (s : Text) : Text :=
  if s.all (·.toNat < 128) then s
  else composed (ordered ((s.flatMap replaced).flatMap (takenApart compositeDepth)))

theorem replacedTextsFrom_ne_nil {code pending : Nat} {numbers : List Int} {row : Option Text}
    {entry : Nat × Text} (h : entry ∈ replacedTextsFrom code numbers row pending) :
    entry.2 ≠ [] := by
  fun_induction replacedTextsFrom code numbers row pending with
  | case1 code gap count rest pending ih => exact ih h
  | case2 code next rest row read ih =>
    rcases List.mem_cons.1 h with rfl | h
    · simp [read]
    · exact ih h
  | case3 code next rest row pending read _ ih => exact ih h
  | case4 => cases h

theorem spelled_ne_nil {entry : Nat × Text} (h : entry ∈ replacedTexts) : entry.2 ≠ [] := by
  rw [replacedTexts] at h
  exact replacedTextsFrom_ne_nil h

theorem replaced_ne_nil (c : Char) : replaced c ≠ [] := by
  rw [replaced]
  split
  · exact List.cons_ne_nil _ _
  · cases h : replacedTexts.find? (·.1 == c.toNat) with
    | some entry => exact spelled_ne_nil (List.mem_of_find?_eq_some h)
    | none =>
      cases replacedRuns.find? fun r => r.first ≤ c.toNat && c.toNat < r.first + r.count with
      | some r => exact List.cons_ne_nil _ _
      | none => exact List.cons_ne_nil _ _

theorem syllableParts?_ne_nil {code : Nat} {parts : Text} (h : syllableParts? code = some parts) :
    parts ≠ [] := by
  unfold syllableParts? at h
  dsimp only at h
  split at h
  · cases h
    exact List.cons_ne_nil _ _
  · cases h

theorem takenApart_ne_nil (n : Nat) (c : Char) : takenApart n c ≠ [] := by
  cases n with
  | zero => exact List.cons_ne_nil _ _
  | succ n =>
    rw [takenApart]
    split
    · exact List.cons_ne_nil _ _
    · cases h : syllableParts? c.toNat with
      | some parts => exact syllableParts?_ne_nil h
      | none =>
        cases composites.find? (·.whole == c.toNat) with
        | some found => exact List.concat_ne_nil _ _
        | none => exact List.cons_ne_nil _ _

theorem putByRank_ne_nil (c : Char) (before : Text) : putByRank c before ≠ [] := by
  cases before with
  | nil => exact List.cons_ne_nil _ _
  | cons d before =>
    unfold putByRank
    split <;> exact List.cons_ne_nil _ _

theorem ordered_ne_nil {s : Text} (h : s ≠ []) : ordered s ≠ [] := by
  obtain ⟨front, last, rfl⟩ : ∃ front last, s = front ++ [last] :=
    ⟨s.dropLast, s.getLast h, (List.dropLast_concat_getLast h).symm⟩
  rw [ordered, List.foldl_append]
  simpa using putByRank_ne_nil last _

theorem composedFrom_ne_nil (letter : Char) (skipped s : Text) :
    composedFrom letter skipped s ≠ [] := by
  fun_induction composedFrom letter skipped s <;> simp_all

/-- A name with a character in it has one in its compared form, too. -/
theorem identifierForm_ne_nil {s : Text} (h : s ≠ []) : identifierForm s ≠ [] := by
  have hflat {f : Char → Text} {s : Text} (hf : ∀ c, f c ≠ []) (h : s ≠ []) : s.flatMap f ≠ [] := by
    obtain ⟨c, rest, rfl⟩ := List.exists_cons_of_ne_nil h
    simp [hf c]
  unfold identifierForm
  split
  · exact h
  · have hordered := ordered_ne_nil
      (hflat (takenApart_ne_nil compositeDepth) (hflat replaced_ne_nil h))
    obtain ⟨c, rest, hcons⟩ := List.exists_cons_of_ne_nil hordered
    rw [hcons, composed]
    split
    · exact composedFrom_ne_nil c [] rest
    · exact List.cons_ne_nil _ _

end RouteAtlas.Text
